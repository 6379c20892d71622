import UspZephyr.KMutexProofs
import UspZephyr.StepRunProofs

/-! # The USP thread and the threads of the application

    `usp_main_thread` initialises the modem HAL, notifies the application threads
    that wait for it, and then runs the engines under a mutex that every
    `SMTC_SW_PLATFORM` call of the application takes as well.  The application
    threads are any number of threads that begin with `SMTC_SW_PLATFORM_INIT`, and
    their statements and those of the USP thread come in any order.  Callbacks of
    the engines and of the calls may call the API again, in the thread that already
    has the mutex.

    `Control` says where the threads are and for how long the USP thread sleeps, and
    `step_control` that every event keeps it. -/

namespace UspThread

open KMutex StepRun

/-! ## The program -/

variable {T : Type}

/-- The USP thread, and the threads of the application. -/
inductive Thread (T : Type) where
  | usp
  | user (t : T)
  deriving DecidableEq

/-- `rac_api_mutex`, and the mutex of the initialisation. -/
inductive MutexId where
  | racApi
  | initialization
  deriving DecidableEq

/-- The options of the build. -/
structure Config where
  threadsMutexes : Bool
  loraBasicsModem : Bool
  flrp : Bool
  mainThreadMaxSleepMs : Nat

/-- The mutexes that are compiled in. -/
def Config.has (cfg : Config) : MutexId → Bool
  | .racApi => cfg.threadsMutexes
  | .initialization => true

/-- What the stack answers: `smtc_is_modem_initialized`, the results of
    `smtc_modem_run_engine`, `smtc_rac_is_irq_flag_pending` and
    `smtc_flrp_call_run`. -/
structure Answers where
  modemInitialized : Bool
  sleepTimeMs : Nat
  irqFlagPending : Bool
  flrpCallRun : Bool

/-- Where `usp_main_thread` is. -/
inductive UspPc where
  | halInit
  | notifyLock
  /-- Inside `k_mutex_lock`, pending. -/
  | notifyPending
  | notifySet
  | notifyBroadcast
  | notifyUnlock
  | lock
  | lockPending
  | isModemInitialized
  | unlockEarly
  | sleepEarly
  | modemRunEngine
  /-- The sleep time without LoRa Basics Modem. -/
  | maxSleepTime
  | racRunEngine
  | flrpRunEngine
  | unlock
  | irqPending
  | flrpCallRun
  | msleep
  /-- Inside `k_sem_take`, the semaphore having been found at 0. -/
  | blocked
  deriving DecidableEq

/-- Where a thread of the application is: in `zephyr_usp_initialization_wait`, in
    its own code, or inside calls of the API, `nested + 1` of them. -/
inductive UserPc where
  | initLock
  | initPending
  | initTest
  /-- In `k_condvar_wait`, which has given the mutex back. -/
  | waiting
  /-- Still in it, woken, and about to take the mutex again. -/
  | relock
  | initUnlock
  | application
  | callPending
  | calling (nested : Nat)
  deriving DecidableEq

/-- All threads, with what they share. -/
structure System (T : Type) where
  pc : UspPc
  /-- Calls of the API that callbacks of an engine are in. -/
  nested : Nat
  sleepTimeMs : Nat
  user : T → UserPc
  mutex : MutexId → Mutex (Thread T)
  isUspInited : Bool
  halInitialized : Bool
  lbmMainLoopSem : Bool

/-- Where `k_mutex_lock` returns to. -/
def UspPc.afterLock (cfg : Config) : UspPc → UspPc
  | .notifyPending => .notifySet
  | .lockPending =>
      if cfg.loraBasicsModem then .isModemInitialized else .maxSleepTime
  | pc => pc

def UserPc.afterLock : UserPc → UserPc
  | .initPending => .initTest
  | .callPending => .calling 0
  | p => p

section Program

variable [DecidableEq T]

/-- A thread comes out of `k_mutex_lock`. -/
def System.ready (cfg : Config) (x : Thread T) (s : System T) : System T :=
  match x with
  | .usp => { s with pc := s.pc.afterLock cfg }
  | .user t =>
      { s with user := Function.update s.user t (s.user t).afterLock }

def System.setMutex (s : System T) (k : MutexId) (m : Mutex (Thread T)) :
    System T :=
  { s with mutex := Function.update s.mutex k m }

/-- What `k_mutex_lock` makes of a mutex, where it is compiled in; `none` when it
    blocks. -/
def System.lock (cfg : Config) (k : MutexId) (x : Thread T) (s : System T) :
    Option (Mutex (Thread T)) :=
  if cfg.has k then (s.mutex k).lock x else some (s.mutex k)

/-- `k_mutex_lock( .., K_FOREVER )`: the thread is through at once or pends, at
    `place` in the queue. -/
def System.acquire (cfg : Config) (k : MutexId) (x : Thread T) (place : Nat)
    (s : System T) : System T :=
  match s.lock cfg k x with
  | some m => (s.setMutex k m).ready cfg x
  | none => s.setMutex k ((s.mutex k).pend x place)

/-- `k_mutex_unlock`, which may let another thread through. -/
def System.release (cfg : Config) (k : MutexId) (x : Thread T) (s : System T) :
    System T :=
  if cfg.has k then
    match (s.mutex k).unlock x with
    | (m, some y) => (s.setMutex k m).ready cfg y
    | (m, none) => s.setMutex k m
  else s

/-- `smtc_modem_hal_interruptible_msleep`, which everything before the next turn
    of the loop ends with. -/
def interruptibleMsleep (sleepTimeMs : Nat) (s : System T) : System T :=
  if s.lbmMainLoopSem then { s with lbmMainLoopSem := false, pc := .lock }
  else if sleepTimeMs = 0 then { s with pc := .lock }
  else { s with pc := .blocked }

/-- `smtc_modem_hal_wake_up`. -/
def wakeUp (s : System T) : System T :=
  if s.pc = .blocked then { s with pc := .lock }
  else { s with lbmMainLoopSem := true }

/-- The sleep time after the engines: `MIN`, which is left out for a maximum of 0,
    and nothing when FLRP has something to run. -/
def sleepTime (cfg : Config) (a : Answers) (sleepTimeMs : Nat) : Nat :=
  if cfg.flrp ∧ a.flrpCallRun then 0
  else if cfg.mainThreadMaxSleepMs ≠ 0 then
    min sleepTimeMs cfg.mainThreadMaxSleepMs
  else sleepTimeMs

/-- The next statement of `usp_main_thread`; `place` is for a mutex that it has to
    wait for.  An engine returns when its callbacks have returned. -/
def statement (cfg : Config) (a : Answers) (place : Nat) (s : System T) :
    Option (System T) :=
  match s.pc with
  | .halInit => some { s with halInitialized := true, pc := .notifyLock }
  | .notifyLock =>
      some ({ s with pc := .notifyPending }.acquire cfg .initialization .usp place)
  | .notifySet => some { s with isUspInited := true, pc := .notifyBroadcast }
  | .notifyBroadcast =>
      some { s with
        user := fun t => if s.user t = .waiting then .relock else s.user t
        pc := .notifyUnlock }
  | .notifyUnlock =>
      some ({ s with pc := .lock }.release cfg .initialization .usp)
  | .lock => some ({ s with pc := .lockPending }.acquire cfg .racApi .usp place)
  | .isModemInitialized =>
      some { s with
        pc := if a.modemInitialized then .modemRunEngine else .unlockEarly }
  | .unlockEarly => some ({ s with pc := .sleepEarly }.release cfg .racApi .usp)
  | .sleepEarly => some (interruptibleMsleep 50 s)
  | .modemRunEngine =>
      if s.nested ≠ 0 then none
      else some { s with sleepTimeMs := a.sleepTimeMs, pc := .racRunEngine }
  | .maxSleepTime =>
      some { s with sleepTimeMs := cfg.mainThreadMaxSleepMs, pc := .racRunEngine }
  | .racRunEngine =>
      if s.nested ≠ 0 then none
      else some { s with pc := if cfg.flrp then .flrpRunEngine else .unlock }
  | .flrpRunEngine =>
      if s.nested ≠ 0 then none else some { s with pc := .unlock }
  | .unlock => some ({ s with pc := .irqPending }.release cfg .racApi .usp)
  | .irqPending =>
      some { s with pc := if a.irqFlagPending then .lock else .flrpCallRun }
  | .flrpCallRun =>
      some { s with sleepTimeMs := sleepTime cfg a s.sleepTimeMs, pc := .msleep }
  | .msleep => some (interruptibleMsleep s.sleepTimeMs s)
  | .notifyPending | .lockPending | .blocked => none

/-- A thread of the application goes to another place in its code. -/
def System.goto (s : System T) (t : T) (p : UserPc) : System T :=
  { s with user := Function.update s.user t p }

/-- The next statement of `zephyr_usp_initialization_wait`. -/
def userStatement (cfg : Config) (t : T) (place : Nat) (s : System T) :
    Option (System T) :=
  match s.user t with
  | .initLock | .relock =>
      some ((s.goto t .initPending).acquire cfg .initialization (.user t) place)
  | .initTest =>
      if s.isUspInited = false then
        some ((s.goto t .waiting).release cfg .initialization (.user t))
      else some (s.goto t .initUnlock)
  | .initUnlock =>
      some ((s.goto t .application).release cfg .initialization (.user t))
  | .initPending | .waiting | .application | .callPending | .calling _ => none

/-- `SMTC_SW_PLATFORM( call )` begins, in the application or in a callback of a
    call. -/
def call (cfg : Config) (t : T) (place : Nat) (s : System T) :
    Option (System T) :=
  match s.user t with
  | .application =>
      some ((s.goto t .callPending).acquire cfg .racApi (.user t) place)
  | .calling n =>
      (s.lock cfg .racApi (.user t)).map fun m =>
        (s.goto t (.calling (n + 1))).setMutex .racApi m
  | _ => none

/-- And ends. -/
def ret (cfg : Config) (t : T) (s : System T) : Option (System T) :=
  match s.user t with
  | .calling 0 => some ((s.goto t .application).release cfg .racApi (.user t))
  | .calling (n + 1) =>
      some ((s.goto t (.calling n)).release cfg .racApi (.user t))
  | _ => none

/-- One of the engines runs. -/
def UspPc.engine : UspPc → Bool
  | .modemRunEngine | .racRunEngine | .flrpRunEngine => true
  | _ => false

/-- What can happen next. -/
inductive Event (T : Type) where
  | usp (a : Answers) (place : Nat)
  /-- A callback of an engine calls the API, and the call returns. -/
  | callbackCall
  | callbackRet
  | user (t : T) (place : Nat)
  | call (t : T) (place : Nat)
  | ret (t : T)
  | wakeUp
  /-- The sleep times out. -/
  | timeout

def step (cfg : Config) (s : System T) : Event T → Option (System T)
  | .usp a place => statement cfg a place s
  | .callbackCall =>
      if s.pc.engine then
        (s.lock cfg .racApi .usp).map fun m =>
          { s with nested := s.nested + 1 }.setMutex .racApi m
      else none
  | .callbackRet =>
      if s.nested = 0 then none
      else some ({ s with nested := s.nested - 1 }.release cfg .racApi .usp)
  | .user t place => userStatement cfg t place s
  | .call t place => call cfg t place s
  | .ret t => ret cfg t s
  | .wakeUp => some (wakeUp s)
  | .timeout =>
      if s.pc = .blocked then some { s with pc := .lock } else none

end Program

def initial : System T :=
  { pc := .halInit, nested := 0, sleepTimeMs := 0, user := fun _ => .initLock
    mutex := fun _ => .free, isUspInited := false, halInitialized := false
    lbmMainLoopSem := false }

/-! ## Where the threads are -/

/-- The statements before `is_usp_inited` is set. -/
def UspPc.beforeSet : UspPc → Bool
  | .halInit | .notifyLock | .notifyPending | .notifySet => true
  | _ => false

/-- The statements of the loop. -/
def UspPc.inLoop : UspPc → Bool
  | .halInit | .notifyLock | .notifyPending | .notifySet | .notifyBroadcast
  | .notifyUnlock => false
  | _ => true

/-- Those that are only there with LoRa Basics Modem. -/
def UspPc.ofModem : UspPc → Bool
  | .isModemInitialized | .unlockEarly | .sleepEarly | .modemRunEngine => true
  | _ => false

/-- The thread has come back from `zephyr_usp_initialization_wait`, or is about
    to. -/
def UserPc.ready : UserPc → Bool
  | .initUnlock | .application | .callPending | .calling _ => true
  | _ => false

/-- Where the threads are, and for how long the USP thread sleeps. -/
structure Control (cfg : Config) (s : System T) : Prop where
  nested : s.nested ≠ 0 → s.pc.engine = true
  inited : s.isUspInited = !s.pc.beforeSet
  hal : s.pc ≠ .halInit → s.halInitialized = true
  ready : ∀ t, (s.user t).ready = true → s.isUspInited = true
  waiting : ∀ t, s.user t = .waiting →
    s.pc.beforeSet = true ∨ s.pc = .notifyBroadcast
  blocked : s.pc = .blocked → s.lbmMainLoopSem = false
  ofModem : s.pc.ofModem = true → cfg.loraBasicsModem = true
  sleepTime : cfg.loraBasicsModem = false
      ∨ (s.pc = .msleep ∧ cfg.mainThreadMaxSleepMs ≠ 0) →
    s.sleepTimeMs ≤ cfg.mainThreadMaxSleepMs

theorem control_initial (cfg : Config) : Control cfg (initial : System T) where
  nested := fun h => absurd rfl h
  inited := rfl
  hal := fun h => absurd rfl h
  ready := nofun
  waiting := nofun
  blocked := nofun
  ofModem := nofun
  sleepTime := fun _ => Nat.zero_le _

/-! ### Every event keeps it -/

section Control

variable {cfg : Config} {s s' : System T}

theorem Control.not_nested (h : Control cfg s) (hengine : s.pc.engine = false) :
    s.nested = 0 := by
  by_cases hzero : s.nested = 0
  · exact hzero
  · rw [h.nested hzero] at hengine
    cases hengine

theorem inLoop_spec {pc : UspPc} (h : pc.inLoop = true) :
    pc.beforeSet = false ∧ pc ≠ .halInit ∧ pc ≠ .notifyBroadcast := by
  cases pc <;> first | (cases h; done) | exact ⟨rfl, nofun, nofun⟩

/-- A step inside the loop. -/
theorem Control.loop (h : Control cfg s) (hloop : s.pc.inLoop = true)
    (hloop' : s'.pc.inLoop = true) (huser : s'.user = s.user)
    (hinited : s'.isUspInited = s.isUspInited)
    (hhal : s'.halInitialized = s.halInitialized)
    (hnested : s'.nested ≠ 0 → s'.pc.engine = true)
    (hblocked : s'.pc = .blocked → s'.lbmMainLoopSem = false)
    (hofModem : s'.pc.ofModem = true → cfg.loraBasicsModem = true)
    (hsleep : cfg.loraBasicsModem = false
        ∨ (s'.pc = .msleep ∧ cfg.mainThreadMaxSleepMs ≠ 0) →
      s'.sleepTimeMs ≤ cfg.mainThreadMaxSleepMs) : Control cfg s' := by
  obtain ⟨hset, hpc, hbroadcast⟩ := inLoop_spec hloop
  obtain ⟨hset', -⟩ := inLoop_spec hloop'
  refine ⟨hnested, ?_, fun _ => ?_, fun t ht => ?_, fun t ht => ?_, hblocked,
    hofModem, hsleep⟩
  · rw [hinited, h.inited, hset, hset']
  · rw [hhal]
    exact h.hal hpc
  · rw [huser] at ht
    rw [hinited]
    exact h.ready t ht
  · rw [huser] at ht
    rcases h.waiting t ht with hbefore | heq
    · rw [hset] at hbefore
      cases hbefore
    · exact absurd heq hbroadcast

/-- To a statement that is neither an engine with callbacks nor a sleep. -/
theorem Control.next (h : Control cfg s) (hloop : s.pc.inLoop = true)
    (hzero : s.nested = 0) (pc : UspPc) (hloop' : pc.inLoop = true)
    (hblocked : pc ≠ .blocked) (hmsleep : pc ≠ .msleep)
    (hofModem : pc.ofModem = true → cfg.loraBasicsModem = true) :
    Control cfg { s with pc := pc } := by
  refine h.loop hloop hloop' rfl rfl rfl (fun hn => absurd hzero hn)
    (fun hpc => absurd hpc hblocked) hofModem ?_
  rintro (hmodem | ⟨hpc, -⟩)
  · exact h.sleepTime (Or.inl hmodem)
  · exact absurd hpc hmsleep

/-- The end of a turn of the loop. -/
theorem Control.atTop (h : Control cfg s) (hloop : s.pc.inLoop = true)
    (hzero : s.nested = 0) {sem : Bool} :
    Control cfg { s with lbmMainLoopSem := sem, pc := .lock } := by
  refine h.loop hloop rfl rfl rfl rfl (fun hn => absurd hzero hn) nofun nofun ?_
  rintro (hmodem | ⟨hpc, -⟩)
  · exact h.sleepTime (Or.inl hmodem)
  · cases hpc

theorem interruptibleMsleep_control (h : Control cfg s)
    (hloop : s.pc.inLoop = true) (hzero : s.nested = 0) (ms : Nat) :
    Control cfg (interruptibleMsleep ms s) := by
  rw [interruptibleMsleep]
  by_cases hsem : s.lbmMainLoopSem = true
  · rw [if_pos hsem]
    exact h.atTop hloop hzero
  · rw [if_neg hsem]
    split
    · exact h.atTop hloop hzero
    · refine h.loop hloop rfl rfl rfl rfl (fun hn => absurd hzero hn)
        (fun _ => Bool.eq_false_iff.mpr hsem) nofun ?_
      rintro (hmodem | ⟨hpc, -⟩)
      · exact h.sleepTime (Or.inl hmodem)
      · cases hpc

variable [DecidableEq T]

omit [DecidableEq T] in
theorem Control.setMutex (h : Control cfg s) (k : MutexId)
    (m : Mutex (Thread T)) : Control cfg (s.setMutex k m) :=
  ⟨h.nested, h.inited, h.hal, h.ready, h.waiting, h.blocked, h.ofModem,
    h.sleepTime⟩

/-- The thread of the application is at a place where it may be. -/
theorem Control.goto (h : Control cfg s) (t : T) (p : UserPc)
    (hready : p.ready = true → s.isUspInited = true)
    (hwaiting : p = .waiting →
      s.pc.beforeSet = true ∨ s.pc = .notifyBroadcast) :
    Control cfg (s.goto t p) := by
  refine ⟨h.nested, h.inited, h.hal, fun u hu => ?_, fun u hu => ?_, h.blocked,
    h.ofModem, h.sleepTime⟩
  · dsimp only [System.goto] at hu
    by_cases hut : u = t
    · subst hut
      rw [Function.update_self] at hu
      exact hready hu
    · rw [Function.update_of_ne hut] at hu
      exact h.ready u hu
  · dsimp only [System.goto] at hu
    by_cases hut : u = t
    · subst hut
      rw [Function.update_self] at hu
      exact hwaiting hu
    · rw [Function.update_of_ne hut] at hu
      exact h.waiting u hu

/-- A thread that comes out of `k_mutex_lock` is at such a place. -/
theorem Control.letThrough (h : Control cfg s) (x : Thread T) :
    Control cfg (s.ready cfg x) := by
  cases x with
  | usp =>
      have hsame : ∀ pc, s.pc.afterLock cfg = pc → pc.beforeSet = s.pc.beforeSet →
          (s.pc = .halInit ↔ pc = .halInit) → (s.nested ≠ 0 → pc.engine = true) →
          (s.pc = .notifyBroadcast → pc = .notifyBroadcast) →
          (pc = .blocked → s.pc = .blocked) → (pc = .msleep → s.pc = .msleep) →
          (pc.ofModem = true → cfg.loraBasicsModem = true) →
          Control cfg (s.ready cfg .usp) := by
        rintro pc rfl hset hhal hnested hbroadcast hblocked hmsleep hofModem
        refine ⟨hnested, ?_, fun hne => h.hal fun hpc => hne (hhal.mp hpc), h.ready,
          fun t ht => ?_, fun hpc => h.blocked (hblocked hpc), hofModem, ?_⟩
        · exact h.inited.trans (congrArg _ hset.symm)
        · exact (h.waiting t ht).imp (hset.trans ·) hbroadcast
        · rintro (hmodem | ⟨hpc, hmax⟩)
          · exact h.sleepTime (Or.inl hmodem)
          · exact h.sleepTime (Or.inr ⟨hmsleep hpc, hmax⟩)
      by_cases hnotify : s.pc = .notifyPending
      · have hzero := h.not_nested (by rw [hnotify]; rfl)
        exact hsame .notifySet (by rw [hnotify]; rfl) (by rw [hnotify]; rfl)
          (by rw [hnotify]; exact ⟨nofun, nofun⟩) (fun hn => absurd hzero hn)
          (by rw [hnotify]; nofun) nofun nofun nofun
      · by_cases hlock : s.pc = .lockPending
        · have hzero := h.not_nested (by rw [hlock]; rfl)
          cases hmodem : cfg.loraBasicsModem with
          | true =>
              exact hsame .isModemInitialized (by rw [hlock]; exact if_pos hmodem)
                (by rw [hlock]; rfl) (by rw [hlock]; exact ⟨nofun, nofun⟩)
                (fun hn => absurd hzero hn) (by rw [hlock]; nofun) nofun nofun
                fun _ => hmodem
          | false =>
              exact hsame .maxSleepTime
                (by rw [hlock]; exact if_neg (by rw [hmodem]; nofun))
                (by rw [hlock]; rfl) (by rw [hlock]; exact ⟨nofun, nofun⟩)
                (fun hn => absurd hzero hn) (by rw [hlock]; nofun) nofun nofun
                nofun
        · have hpc : s.pc.afterLock cfg = s.pc := by
            cases hpc : s.pc <;>
              first | rfl | exact absurd hpc hnotify | exact absurd hpc hlock
          exact hsame s.pc hpc rfl Iff.rfl h.nested id id id h.ofModem
  | user t =>
      refine h.goto t _ (fun hready => h.ready t ?_) fun hwaiting => h.waiting t ?_
      · cases hp : s.user t <;> rw [hp] at hready <;> first | rfl | cases hready
      · cases hp : s.user t <;> rw [hp] at hwaiting <;>
          first | rfl | cases hwaiting

theorem Control.acquire (h : Control cfg s) (k : MutexId) (x : Thread T)
    (place : Nat) : Control cfg (s.acquire cfg k x place) := by
  rw [System.acquire]
  split
  · exact (h.setMutex k _).letThrough x
  · exact h.setMutex k _

theorem Control.release (h : Control cfg s) (k : MutexId) (x : Thread T) :
    Control cfg (s.release cfg k x) := by
  rw [System.release]
  split
  · split
    · exact (h.setMutex k _).letThrough _
    · exact h.setMutex k _
  · exact h

/-- The statements of the loop. -/
theorem loopStatement_control {a : Answers} {place : Nat} (h : Control cfg s)
    (hloop : s.pc.inLoop = true) (hstep : statement cfg a place s = some s') :
    Control cfg s' := by
  have hzero : s.pc.engine = false → s.nested = 0 := h.not_nested
  rw [statement] at hstep
  cases hpc : s.pc with
  | halInit | notifyLock | notifyPending | notifySet | notifyBroadcast
  | notifyUnlock => rw [hpc] at hloop; cases hloop
  | lockPending | blocked => rw [hpc] at hstep; cases hstep
  | lock =>
      rw [hpc] at hstep hzero
      obtain rfl := Option.some.inj hstep
      exact (h.next hloop (hzero rfl) .lockPending rfl nofun nofun nofun).acquire
        _ _ _
  | isModemInitialized =>
      rw [hpc] at hstep hzero
      obtain rfl := Option.some.inj hstep
      have hmodem : cfg.loraBasicsModem = true := h.ofModem (by rw [hpc]; rfl)
      cases a.modemInitialized with
      | true => exact h.next hloop (hzero rfl) _ rfl nofun nofun fun _ => hmodem
      | false => exact h.next hloop (hzero rfl) _ rfl nofun nofun fun _ => hmodem
  | unlockEarly =>
      rw [hpc] at hstep hzero
      obtain rfl := Option.some.inj hstep
      have hmodem : cfg.loraBasicsModem = true := h.ofModem (by rw [hpc]; rfl)
      exact (h.next hloop (hzero rfl) .sleepEarly rfl nofun nofun
        fun _ => hmodem).release _ _
  | sleepEarly =>
      rw [hpc] at hstep hzero
      obtain rfl := Option.some.inj hstep
      exact interruptibleMsleep_control h hloop (hzero rfl) 50
  | modemRunEngine =>
      rw [hpc] at hstep
      dsimp only at hstep
      split at hstep
      · cases hstep
      · next hnested =>
          obtain rfl := Option.some.inj hstep
          have hmodem : cfg.loraBasicsModem = true := h.ofModem (by rw [hpc]; rfl)
          refine h.loop hloop rfl rfl rfl rfl (fun _ => rfl) nofun nofun ?_
          rintro (hnot | ⟨hmsleep, -⟩)
          · rw [hmodem] at hnot
            cases hnot
          · cases hmsleep
  | maxSleepTime =>
      rw [hpc] at hstep
      obtain rfl := Option.some.inj hstep
      exact h.loop hloop rfl rfl rfl rfl (fun _ => rfl) nofun nofun
        fun _ => Nat.le_refl _
  | racRunEngine =>
      rw [hpc] at hstep
      dsimp only at hstep
      split at hstep
      · cases hstep
      · next hnested =>
          obtain rfl := Option.some.inj hstep
          have hzero := Decidable.not_not.mp hnested
          cases cfg.flrp with
          | true => exact h.next hloop hzero .flrpRunEngine rfl nofun nofun nofun
          | false => exact h.next hloop hzero .unlock rfl nofun nofun nofun
  | flrpRunEngine =>
      rw [hpc] at hstep
      dsimp only at hstep
      split at hstep
      · cases hstep
      · next hnested =>
          obtain rfl := Option.some.inj hstep
          exact h.next hloop (Decidable.not_not.mp hnested) .unlock rfl nofun
            nofun nofun
  | unlock =>
      rw [hpc] at hstep hzero
      obtain rfl := Option.some.inj hstep
      exact (h.next hloop (hzero rfl) .irqPending rfl nofun nofun nofun).release
        _ _
  | irqPending =>
      rw [hpc] at hstep hzero
      obtain rfl := Option.some.inj hstep
      cases a.irqFlagPending with
      | true => exact h.next hloop (hzero rfl) .lock rfl nofun nofun nofun
      | false => exact h.next hloop (hzero rfl) .flrpCallRun rfl nofun nofun nofun
  | flrpCallRun =>
      rw [hpc] at hstep hzero
      obtain rfl := Option.some.inj hstep
      refine h.loop hloop rfl rfl rfl rfl (fun hn => absurd (hzero rfl) hn) nofun
        nofun fun hor => ?_
      show sleepTime cfg a s.sleepTimeMs ≤ _
      rw [sleepTime]
      split
      · exact Nat.zero_le _
      · split
        · exact Nat.min_le_right _ _
        · next hmax =>
            rcases hor with hmodem | ⟨-, hmax'⟩
            · exact h.sleepTime (Or.inl hmodem)
            · exact absurd hmax' hmax
  | msleep =>
      rw [hpc] at hstep hzero
      obtain rfl := Option.some.inj hstep
      exact interruptibleMsleep_control h hloop (hzero rfl) s.sleepTimeMs

/-- The statements of the initialisation. -/
theorem notifyStatement_control {a : Answers} {place : Nat} (h : Control cfg s)
    (hloop : s.pc.inLoop = false) (hstep : statement cfg a place s = some s') :
    Control cfg s' := by
  have hzero : s.nested = 0 := by
    refine h.not_nested ?_
    cases hpc : s.pc <;> rw [hpc] at hloop <;> first | rfl | cases hloop
  have hinited := h.inited
  -- the sleep time is not theirs
  have hsleep : ∀ pc : UspPc, pc ≠ .msleep →
      cfg.loraBasicsModem = false
          ∨ (pc = .msleep ∧ cfg.mainThreadMaxSleepMs ≠ 0) →
        s.sleepTimeMs ≤ cfg.mainThreadMaxSleepMs := by
    rintro pc hmsleep (hmodem | ⟨hpc, -⟩)
    · exact h.sleepTime (Or.inl hmodem)
    · exact absurd hpc hmsleep
  rw [statement] at hstep
  cases hpc : s.pc <;> first | (rw [hpc] at hloop; cases hloop; done) | skip
  case halInit =>
    rw [hpc] at hstep hinited
    obtain rfl := Option.some.inj hstep
    exact ⟨fun hn => absurd hzero hn, hinited, fun _ => rfl, h.ready,
      fun t _ => Or.inl rfl, nofun, nofun, hsleep .notifyLock nofun⟩
  case notifyLock =>
    rw [hpc] at hstep hinited
    obtain rfl := Option.some.inj hstep
    have hhal := h.hal (by rw [hpc]; nofun)
    refine Control.acquire ?_ _ _ _
    exact ⟨fun hn => absurd hzero hn, hinited, fun _ => hhal, h.ready,
      fun t _ => Or.inl rfl, nofun, nofun, hsleep .notifyPending nofun⟩
  case notifyPending => rw [hpc] at hstep; cases hstep
  case notifySet =>
    rw [hpc] at hstep
    obtain rfl := Option.some.inj hstep
    have hhal := h.hal (by rw [hpc]; nofun)
    exact ⟨fun hn => absurd hzero hn, rfl, fun _ => hhal, fun t _ => rfl,
      fun t _ => Or.inr rfl, nofun, nofun, hsleep .notifyBroadcast nofun⟩
  case notifyBroadcast =>
    rw [hpc] at hstep hinited
    obtain rfl := Option.some.inj hstep
    have hhal := h.hal (by rw [hpc]; nofun)
    refine ⟨fun hn => absurd hzero hn, hinited, fun _ => hhal, fun t ht => ?_,
      fun t ht => ?_, nofun, nofun, hsleep .notifyUnlock nofun⟩
    · dsimp only at ht
      split at ht
      · cases ht
      · exact h.ready t ht
    · dsimp only at ht
      split at ht
      · cases ht
      · next hne => exact absurd ht hne
  case notifyUnlock =>
    rw [hpc] at hstep hinited
    obtain rfl := Option.some.inj hstep
    have hhal := h.hal (by rw [hpc]; nofun)
    refine Control.release ?_ _ _
    refine ⟨fun hn => absurd hzero hn, hinited, fun _ => hhal, h.ready,
      fun t ht => ?_, nofun, nofun, hsleep .lock nofun⟩
    rcases h.waiting t ht with hbefore | heq
    · rw [hpc] at hbefore
      cases hbefore
    · rw [hpc] at heq
      cases heq

theorem userStatement_control {t : T} {place : Nat} (h : Control cfg s)
    (hstep : userStatement cfg t place s = some s') : Control cfg s' := by
  rw [userStatement] at hstep
  cases hp : s.user t with
  | initLock | relock =>
      rw [hp] at hstep
      obtain rfl := Option.some.inj hstep
      exact (h.goto t .initPending nofun nofun).acquire _ _ _
  | initTest =>
      rw [hp] at hstep
      dsimp only at hstep
      split at hstep
      · next hnot =>
          obtain rfl := Option.some.inj hstep
          refine (h.goto t .waiting nofun fun _ => Or.inl ?_).release _ _
          have hinited := h.inited
          rw [hnot] at hinited
          simpa using hinited
      · next hinited =>
          obtain rfl := Option.some.inj hstep
          exact h.goto t _ (fun _ => Bool.not_eq_false _ ▸ hinited) nofun
  | initUnlock =>
      rw [hp] at hstep
      obtain rfl := Option.some.inj hstep
      have hready := h.ready t (by rw [hp]; rfl)
      exact (h.goto t .application (fun _ => hready) nofun).release _ _
  | _ => rw [hp] at hstep; cases hstep

theorem call_control {t : T} {place : Nat} (h : Control cfg s)
    (hstep : call cfg t place s = some s') : Control cfg s' := by
  rw [call] at hstep
  cases hp : s.user t with
  | application =>
      rw [hp] at hstep
      obtain rfl := Option.some.inj hstep
      have hready := h.ready t (by rw [hp]; rfl)
      exact (h.goto t .callPending (fun _ => hready) nofun).acquire _ _ _
  | calling n =>
      rw [hp] at hstep
      obtain ⟨m, -, rfl⟩ := Option.map_eq_some_iff.mp hstep
      have hready := h.ready t (by rw [hp]; rfl)
      exact (h.goto t (.calling (n + 1)) (fun _ => hready) nofun).setMutex _ _
  | _ => rw [hp] at hstep; cases hstep

theorem ret_control {t : T} (h : Control cfg s) (hstep : ret cfg t s = some s') :
    Control cfg s' := by
  rw [ret] at hstep
  cases hp : s.user t with
  | calling n =>
      have hready := h.ready t (by rw [hp]; rfl)
      rw [hp] at hstep
      cases n with
      | zero =>
          obtain rfl := Option.some.inj hstep
          exact (h.goto t .application (fun _ => hready) nofun).release _ _
      | succ n =>
          obtain rfl := Option.some.inj hstep
          exact (h.goto t (.calling n) (fun _ => hready) nofun).release _ _
  | _ => rw [hp] at hstep; cases hstep

theorem inLoop_of_engine {pc : UspPc} (h : pc.engine = true) :
    pc.inLoop = true := by
  cases pc <;> first | rfl | cases h

omit [DecidableEq T] in
/-- The callbacks of an engine come and go. -/
theorem Control.nesting (h : Control cfg s) (hengine : s.pc.engine = true)
    (n : Nat) : Control cfg { s with nested := n } :=
  h.loop (inLoop_of_engine hengine) (inLoop_of_engine hengine) rfl rfl rfl
    (fun _ => hengine) h.blocked h.ofModem h.sleepTime

omit [DecidableEq T] in
/-- Out of `k_sem_take`. -/
theorem Control.awaken (h : Control cfg s) (hpc : s.pc = .blocked) :
    Control cfg { s with pc := .lock } :=
  h.atTop (by rw [hpc]; rfl) (h.not_nested (by rw [hpc]; rfl))

omit [DecidableEq T] in
theorem wakeUp_control (h : Control cfg s) : Control cfg (wakeUp s) := by
  rw [wakeUp]
  split
  · next hpc => exact h.awaken hpc
  · next hpc =>
      exact ⟨h.nested, h.inited, h.hal, h.ready, h.waiting,
        fun hblocked => absurd hblocked hpc, h.ofModem, h.sleepTime⟩

theorem step_control {e : Event T} (h : Control cfg s)
    (hstep : step cfg s e = some s') : Control cfg s' := by
  cases e with
  | usp a place =>
      cases hloop : s.pc.inLoop with
      | true => exact loopStatement_control h hloop hstep
      | false => exact notifyStatement_control h hloop hstep
  | callbackCall =>
      dsimp only [step] at hstep
      split at hstep
      · next hengine =>
          obtain ⟨m, -, rfl⟩ := Option.map_eq_some_iff.mp hstep
          exact (h.nesting hengine _).setMutex _ _
      · cases hstep
  | callbackRet =>
      dsimp only [step] at hstep
      split at hstep
      · cases hstep
      · next hnested =>
          obtain rfl := Option.some.inj hstep
          exact (h.nesting (h.nested hnested) _).release _ _
  | user t place => exact userStatement_control h hstep
  | call t place => exact call_control h hstep
  | ret t => exact ret_control h hstep
  | wakeUp =>
      obtain rfl := Option.some.inj hstep
      exact wakeUp_control h
  | timeout =>
      dsimp only [step] at hstep
      split at hstep
      · next hpc =>
          obtain rfl := Option.some.inj hstep
          exact h.awaken hpc
      · cases hstep

end Control

end UspThread
