import UspZephyr.UspThreadProofs

/-! # The mutexes of the USP thread and the application

    `step_change` says what a statement can do to the mutexes, and `step_moved`
    what it can do to the rest.  From these, every event keeps who has the mutexes
    and who pends for them (`Mutexes`), and a run keeps the whole invariant. -/

namespace UspThread

open KMutex StepRun

variable {T : Type}

/-! ## Who is inside -/

/-- The thread that an event is a statement of. -/
def Event.thread : Event T → Option (Thread T)
  | .usp _ _ | .callbackCall | .callbackRet => some .usp
  | .user t _ | .call t _ | .ret t => some (.user t)
  | .wakeUp | .timeout => none

/-- The USP thread is between a lock and its unlock. -/
def UspPc.holds : MutexId → UspPc → Bool
  | .racApi, .isModemInitialized | .racApi, .unlockEarly
  | .racApi, .modemRunEngine | .racApi, .maxSleepTime | .racApi, .racRunEngine
  | .racApi, .flrpRunEngine | .racApi, .unlock => true
  | .initialization, .notifySet | .initialization, .notifyBroadcast
  | .initialization, .notifyUnlock => true
  | _, _ => false

/-- How often a thread of the application has locked. -/
def UserPc.depth : MutexId → UserPc → Nat
  | .racApi, .calling n => n + 1
  | .initialization, .initTest | .initialization, .initUnlock => 1
  | _, _ => 0

def UspPc.pends : MutexId → UspPc → Bool
  | .racApi, .lockPending | .initialization, .notifyPending => true
  | _, _ => false

def UserPc.pends : MutexId → UserPc → Bool
  | .racApi, .callPending | .initialization, .initPending => true
  | _, _ => false

/-- The locks of callbacks come on top. -/
def System.nestedIn (s : System T) : MutexId → Nat
  | .racApi => s.nested
  | .initialization => 0

/-- How often a thread has locked a mutex. -/
def System.depth (s : System T) (k : MutexId) : Thread T → Nat
  | .usp => (s.pc.holds k).toNat + s.nestedIn k
  | .user t => (s.user t).depth k

/-- And whether it pends. -/
def System.pends (s : System T) (k : MutexId) : Thread T → Bool
  | .usp => s.pc.pends k
  | .user t => (s.user t).pends k

/-- The thread runs an engine or is inside a call of the API. -/
def System.Inside (s : System T) : Thread T → Prop
  | .usp => s.pc.engine = true
  | .user t => ∃ n, s.user t = .calling n

theorem holds_of_engine {pc : UspPc} (h : pc.engine = true) :
    pc.holds .racApi = true := by
  cases pc <;> first | rfl | cases h

theorem inside_depth {s : System T} {x : Thread T} (h : s.Inside x) :
    0 < s.depth .racApi x := by
  cases x with
  | usp =>
      show 0 < (s.pc.holds .racApi).toNat + s.nested
      rw [holds_of_engine h]
      exact Nat.lt_of_lt_of_le Nat.one_pos (Nat.le_add_right _ _)
  | user t =>
      obtain ⟨n, hn⟩ := h
      show 0 < (s.user t).depth .racApi
      rw [hn]
      exact Nat.succ_pos n

/-- Nobody pends twice. -/
theorem pends_unique {s : System T} {x : Thread T} {j k : MutexId}
    (hk : s.pends k x = true) (hjk : j ≠ k) : s.pends j x = false := by
  cases x with
  | usp =>
      show s.pc.pends j = false
      have hk : s.pc.pends k = true := hk
      cases hpc : s.pc <;> rw [hpc] at hk <;> cases k <;> cases j <;>
        first | rfl | exact absurd rfl hjk | cases hk
  | user t =>
      show (s.user t).pends j = false
      have hk : (s.user t).pends k = true := hk
      cases hp : s.user t <;> rw [hp] at hk <;> cases k <;> cases j <;>
        first | rfl | exact absurd rfl hjk | cases hk

/-! ## What a statement can do -/

section Statements

variable [DecidableEq T] {cfg : Config} {s s' s₁ : System T}

/-- The thread that comes out of `k_mutex_lock` is inside. -/
theorem ready_depth (cfg : Config) (s : System T) (x y : Thread T)
    (k : MutexId) :
    (s.ready cfg x).depth k y
      = s.depth k y + if y = x then (s.pends k y).toNat else 0 := by
  cases x with
  | usp =>
      cases y with
      | usp =>
          rw [if_pos rfl]
          show ((s.pc.afterLock cfg).holds k).toNat + s.nestedIn k
            = (s.pc.holds k).toNat + s.nestedIn k + (s.pc.pends k).toNat
          have hpc : ((s.pc.afterLock cfg).holds k).toNat
              = (s.pc.holds k).toNat + (s.pc.pends k).toNat := by
            cases s.pc <;> cases k <;>
              first
              | rfl
              | (simp only [UspPc.afterLock]; split <;> rfl)
          omega
      | user t => rw [if_neg nofun]; rfl
  | user u =>
      cases y with
      | usp => rw [if_neg nofun]; rfl
      | user t =>
          show (Function.update s.user u (s.user u).afterLock t).depth k = _
          by_cases htu : t = u
          · subst htu
            rw [Function.update_self, if_pos rfl]
            show (s.user t).afterLock.depth k
              = (s.user t).depth k + ((s.user t).pends k).toNat
            cases s.user t <;> cases k <;> rfl
          · rw [Function.update_of_ne htu,
              if_neg fun h => htu (Thread.user.inj h)]
            rfl

theorem ready_pends (cfg : Config) (s : System T) (x y : Thread T)
    (k : MutexId) :
    (s.ready cfg x).pends k y = (s.pends k y && y ≠ x) := by
  cases x with
  | usp =>
      cases y with
      | usp =>
          show (s.pc.afterLock cfg).pends k = _
          have hpc : (s.pc.afterLock cfg).pends k = false := by
            cases s.pc <;> cases k <;>
              first
              | rfl
              | (simp only [UspPc.afterLock]; split <;> rfl)
          rw [hpc]
          simp
      | user t => simp [System.ready, System.pends]
  | user u =>
      cases y with
      | usp => simp [System.ready, System.pends]
      | user t =>
          show (Function.update s.user u (s.user u).afterLock t).pends k = _
          by_cases htu : t = u
          · subst htu
            have hp : (s.user t).afterLock.pends k = false := by
              cases s.user t <;> cases k <;> rfl
            rw [Function.update_self, hp]
            simp
          · rw [Function.update_of_ne htu]
            have hne : Thread.user t ≠ Thread.user u := fun h =>
              htu (Thread.user.inj h)
            simp [System.pends, hne]

/-- One thread is at another place in its code, and nobody has touched a mutex.
    Threads that waited for the initialisation may have been woken. -/
structure Moved (x : Thread T) (s s₁ : System T) : Prop where
  mutex : s₁.mutex = s.mutex
  depth : ∀ k y, y ≠ x → s₁.depth k y = s.depth k y
  pends : ∀ k y, y ≠ x → s₁.pends k y = s.pends k y
  user : ∀ t, x ≠ .user t → s₁.user t = s.user t
    ∨ (s.user t = .waiting ∧ s₁.user t = .relock)
  usp : x ≠ .usp → s₁.pc = s.pc
  isUspInited : s.isUspInited = true → s₁.isUspInited = true
  sem : s₁.lbmMainLoopSem = s.lbmMainLoopSem ∨ s₁.pc = .lock

/-- A statement that leaves the mutexes or unlocks one. -/
inductive Exits (cfg : Config) (x : Thread T) (s s' : System T) : Prop where
  | plain (hmoved : Moved x s s') (hdepth : ∀ k, s'.depth k x = s.depth k x)
      (hpends : ∀ k, s'.pends k x = s.pends k x)
  | release (k : MutexId) (s₁ : System T) (hmoved : Moved x s s₁)
      (hdepth : s₁.depth k x + 1 = s.depth k x)
      (hother : ∀ j, j ≠ k → s₁.depth j x = s.depth j x)
      (hpends : ∀ j, s₁.pends j x = s.pends j x)
      (hrelease : s' = s₁.release cfg k x)

/-- One that locks a mutex: it may pend for the first lock, but not for another
    one. -/
inductive Enters (cfg : Config) (x : Thread T) (s s' : System T) : Prop where
  | acquire (k : MutexId) (place : Nat) (s₁ : System T) (hmoved : Moved x s s₁)
      (hdepth : ∀ j, s₁.depth j x = s.depth j x)
      (hout : ∀ j, s.pends j x = false)
      (hpends : ∀ j, s₁.pends j x = decide (j = k))
      (hacquire : s' = s₁.acquire cfg k x place)
  | again (k : MutexId) (m : Mutex (Thread T)) (s₁ : System T)
      (hmoved : Moved x s s₁) (hlock : s₁.lock cfg k x = some m)
      (hdepth : s₁.depth k x = s.depth k x + 1)
      (hother : ∀ j, j ≠ k → s₁.depth j x = s.depth j x)
      (hpends : ∀ j, s₁.pends j x = s.pends j x)
      (hset : s' = s₁.setMutex k m)

omit [DecidableEq T] in
/-- The USP thread is at another place. -/
theorem moved_usp (hmutex : s₁.mutex = s.mutex) (huser : s₁.user = s.user)
    (hinited : s₁.isUspInited = s.isUspInited)
    (hsem : s₁.lbmMainLoopSem = s.lbmMainLoopSem ∨ s₁.pc = .lock) :
    Moved .usp s s₁ where
  mutex := hmutex
  depth k y hy := by
    cases y with
    | usp => exact absurd rfl hy
    | user t => exact congrArg (UserPc.depth k) (congrFun huser t)
  pends k y hy := by
    cases y with
    | usp => exact absurd rfl hy
    | user t => exact congrArg (UserPc.pends k) (congrFun huser t)
  user t _ := Or.inl (congrFun huser t)
  usp h := absurd rfl h
  isUspInited h := hinited.trans h
  sem := hsem

/-- A thread of the application is. -/
theorem moved_goto (s : System T) (t : T) (p : UserPc) :
    Moved (.user t) s (s.goto t p) where
  mutex := rfl
  depth k y hy := by
    cases y with
    | usp => rfl
    | user u =>
        have hne : u ≠ t := fun hut => hy (congrArg Thread.user hut)
        exact congrArg (UserPc.depth k) (Function.update_of_ne hne _ _)
  pends k y hy := by
    cases y with
    | usp => rfl
    | user u =>
        have hne : u ≠ t := fun hut => hy (congrArg Thread.user hut)
        exact congrArg (UserPc.pends k) (Function.update_of_ne hne _ _)
  user u hu :=
    Or.inl (Function.update_of_ne (fun hut => hu (congrArg Thread.user hut.symm))
      _ _)
  usp _ := rfl
  isUspInited h := h
  sem := Or.inl rfl

@[simp] theorem goto_depth (s : System T) (t : T) (p : UserPc) (k : MutexId) :
    (s.goto t p).depth k (.user t) = p.depth k := by
  show (Function.update s.user t p t).depth k = _
  rw [Function.update_self]

@[simp] theorem goto_pends (s : System T) (t : T) (p : UserPc) (k : MutexId) :
    (s.goto t p).pends k (.user t) = p.pends k := by
  show (Function.update s.user t p t).pends k = _
  rw [Function.update_self]

/-- A statement that the USP thread goes on after, with the mutexes it has. -/
theorem exits_usp (hmutex : s'.mutex = s.mutex) (huser : s'.user = s.user)
    (hinited : s'.isUspInited = s.isUspInited) (hnested : s'.nested = s.nested)
    (hsem : s'.lbmMainLoopSem = s.lbmMainLoopSem ∨ s'.pc = .lock)
    (hholds : ∀ k, s'.pc.holds k = s.pc.holds k)
    (hpends : ∀ k, s'.pc.pends k = s.pc.pends k) : Exits cfg .usp s s' := by
  refine .plain (moved_usp hmutex huser hinited hsem) (fun k => ?_) hpends
  have hin : s'.nestedIn k = s.nestedIn k := by
    cases k with
    | racApi => exact hnested
    | initialization => rfl
  show (s'.pc.holds k).toNat + _ = (s.pc.holds k).toNat + _
  rw [hholds, hin]

/-- One behind which it has unlocked. -/
theorem exits_unlock (k : MutexId) {pc : UspPc} (hk : s.pc.holds k = true)
    (hk' : pc.holds k = false)
    (hother : ∀ j, j ≠ k → pc.holds j = s.pc.holds j)
    (hpends : ∀ j, pc.pends j = s.pc.pends j) :
    Exits cfg .usp s ({ s with pc := pc }.release cfg k .usp) := by
  refine .release k { s with pc := pc } (moved_usp rfl rfl rfl (Or.inl rfl)) ?_
    (fun j hj => ?_) hpends rfl
  · show (pc.holds k).toNat + s.nestedIn k + 1
      = (s.pc.holds k).toNat + s.nestedIn k
    rw [hk, hk']
    show 0 + s.nestedIn k + 1 = 1 + s.nestedIn k
    omega
  · show (pc.holds j).toNat + s.nestedIn j = (s.pc.holds j).toNat + s.nestedIn j
    rw [hother j hj]

theorem interruptibleMsleep_exits (ms : Nat) (hholds : ∀ k, s.pc.holds k = false)
    (hpends : ∀ k, s.pc.pends k = false) :
    Exits cfg .usp s (interruptibleMsleep ms s) := by
  have hnone : ∀ pc : UspPc, pc = .lock ∨ pc = .blocked → ∀ k,
      pc.holds k = s.pc.holds k ∧ pc.pends k = s.pc.pends k := by
    rintro pc (rfl | rfl) k <;> rw [hholds, hpends] <;> cases k <;>
      exact ⟨rfl, rfl⟩
  rw [interruptibleMsleep]
  split
  · exact exits_usp rfl rfl rfl rfl (Or.inr rfl)
      (fun k => (hnone _ (Or.inl rfl) k).1) fun k => (hnone _ (Or.inl rfl) k).2
  · split
    · exact exits_usp rfl rfl rfl rfl (Or.inl rfl)
        (fun k => (hnone _ (Or.inl rfl) k).1) fun k => (hnone _ (Or.inl rfl) k).2
    · exact exits_usp rfl rfl rfl rfl (Or.inl rfl)
        (fun k => (hnone _ (Or.inr rfl) k).1) fun k => (hnone _ (Or.inr rfl) k).2

/-- The threads that it wakes have no mutex, as before. -/
theorem notifyBroadcast_exits (hpc : s.pc = .notifyBroadcast) :
    Exits cfg .usp s { s with
      user := fun t => if s.user t = .waiting then .relock else s.user t
      pc := .notifyUnlock } := by
  have hwoken : ∀ t k,
      (if s.user t = .waiting then UserPc.relock else s.user t).depth k
          = (s.user t).depth k
        ∧ (if s.user t = .waiting then UserPc.relock else s.user t).pends k
          = (s.user t).pends k := by
    intro t k
    split
    · next ht => rw [ht]; cases k <;> exact ⟨rfl, rfl⟩
    · exact ⟨rfl, rfl⟩
  refine .plain ⟨rfl, fun k y hy => ?_, fun k y hy => ?_, fun t _ => ?_,
    fun h => absurd rfl h, id, Or.inl rfl⟩ (fun k => ?_) fun k => ?_
  · cases y with
    | usp => exact absurd rfl hy
    | user t => exact (hwoken t k).1
  · cases y with
    | usp => exact absurd rfl hy
    | user t => exact (hwoken t k).2
  · dsimp only
    split
    · next ht => exact Or.inr ⟨ht, rfl⟩
    · exact Or.inl rfl
  · show (UspPc.notifyUnlock.holds k).toNat + s.nestedIn k
      = (s.pc.holds k).toNat + s.nestedIn k
    rw [hpc]
    cases k <;> rfl
  · show UspPc.notifyUnlock.pends k = s.pc.pends k
    rw [hpc]
    cases k <;> rfl

/-- The statements of the USP thread that do not lock. -/
theorem statement_exits {a : Answers} {place : Nat}
    (hnotify : s.pc ≠ .notifyLock) (hlock : s.pc ≠ .lock)
    (hstep : statement cfg a place s = some s') : Exits cfg .usp s s' := by
  rw [statement] at hstep
  cases hpc : s.pc <;> rw [hpc] at hstep <;> dsimp only at hstep
  case notifyLock => exact absurd hpc hnotify
  case lock => exact absurd hpc hlock
  case notifyPending | lockPending | blocked => cases hstep
  case notifyBroadcast =>
    obtain rfl := Option.some.inj hstep
    exact notifyBroadcast_exits hpc
  case notifySet =>
    obtain rfl := Option.some.inj hstep
    refine .plain ⟨rfl, fun k y hy => ?_, fun k y hy => ?_, fun _ _ => Or.inl rfl,
      fun h => absurd rfl h, fun _ => rfl, Or.inl rfl⟩ (fun k => ?_) fun k => ?_
    · cases y with
      | usp => exact absurd rfl hy
      | user t => rfl
    · cases y with
      | usp => exact absurd rfl hy
      | user t => rfl
    · show _ = (s.pc.holds k).toNat + s.nestedIn k
      rw [hpc]
      cases k <;> rfl
    · show _ = s.pc.pends k
      rw [hpc]
      cases k <;> rfl
  case notifyUnlock =>
    obtain rfl := Option.some.inj hstep
    exact exits_unlock .initialization (by rw [hpc]; rfl) rfl
      (fun j hj => by rw [hpc]; cases j <;> first | rfl | exact absurd rfl hj)
      fun j => by rw [hpc]; cases j <;> rfl
  case unlockEarly | unlock =>
    obtain rfl := Option.some.inj hstep
    exact exits_unlock .racApi (by rw [hpc]; rfl) rfl
      (fun j hj => by rw [hpc]; cases j <;> first | rfl | exact absurd rfl hj)
      fun j => by rw [hpc]; cases j <;> rfl
  case sleepEarly | msleep =>
    obtain rfl := Option.some.inj hstep
    exact interruptibleMsleep_exits _ (fun k => by rw [hpc]; cases k <;> rfl)
      fun k => by rw [hpc]; cases k <;> rfl
  case isModemInitialized | irqPending =>
    obtain rfl := Option.some.inj hstep
    exact exits_usp rfl rfl rfl rfl (Or.inl rfl)
      (fun k => by rw [hpc]; dsimp only; split <;> cases k <;> rfl)
      fun k => by rw [hpc]; dsimp only; split <;> cases k <;> rfl
  case modemRunEngine | racRunEngine | flrpRunEngine =>
    split at hstep
    · cases hstep
    · obtain rfl := Option.some.inj hstep
      exact exits_usp rfl rfl rfl rfl (Or.inl rfl)
        (fun k => by
          rw [hpc]; dsimp only; cases k <;> first | rfl | (split <;> rfl))
        fun k => by
          rw [hpc]; dsimp only; cases k <;> first | rfl | (split <;> rfl)
  all_goals
    obtain rfl := Option.some.inj hstep
    exact exits_usp rfl rfl rfl rfl (Or.inl rfl)
      (fun k => by rw [hpc]; cases k <;> rfl)
      fun k => by rw [hpc]; cases k <;> rfl

theorem statement_change {a : Answers} {place : Nat}
    (hstep : statement cfg a place s = some s') :
    Exits cfg .usp s s' ∨ Enters cfg .usp s s' := by
  have hacquire : ∀ (k : MutexId) (pc : UspPc), (∀ j, s.pc.holds j = false) →
      (∀ j, s.pc.pends j = false) → (∀ j, pc.holds j = false) →
      (∀ j, pc.pends j = decide (j = k)) →
      Enters cfg .usp s ({ s with pc := pc }.acquire cfg k .usp place) := by
    intro k pc hholds hpends hholds' hpends'
    refine .acquire k place { s with pc := pc }
      (moved_usp rfl rfl rfl (Or.inl rfl)) (fun j => ?_) hpends hpends' rfl
    show (pc.holds j).toNat + s.nestedIn j = (s.pc.holds j).toNat + s.nestedIn j
    rw [hholds, hholds']
  by_cases hnotify : s.pc = .notifyLock
  · rw [statement, hnotify] at hstep
    obtain rfl := Option.some.inj hstep
    exact Or.inr (hacquire .initialization .notifyPending
      (fun j => by rw [hnotify]; cases j <;> rfl)
      (fun j => by rw [hnotify]; cases j <;> rfl)
      (fun j => by cases j <;> rfl) fun j => by cases j <;> rfl)
  · by_cases hlock : s.pc = .lock
    · rw [statement, hlock] at hstep
      obtain rfl := Option.some.inj hstep
      exact Or.inr (hacquire .racApi .lockPending
        (fun j => by rw [hlock]; cases j <;> rfl)
        (fun j => by rw [hlock]; cases j <;> rfl)
        (fun j => by cases j <;> rfl) fun j => by cases j <;> rfl)
    · exact Or.inl (statement_exits hnotify hlock hstep)

/-- A thread of the application unlocks. -/
theorem exits_goto (k : MutexId) {t : T} {p : UserPc}
    (hk : p.depth k + 1 = (s.user t).depth k)
    (hother : ∀ j, j ≠ k → p.depth j = (s.user t).depth j)
    (hpends : ∀ j, p.pends j = (s.user t).pends j) :
    Exits cfg (.user t) s ((s.goto t p).release cfg k (.user t)) := by
  refine .release k (s.goto t p) (moved_goto s t p) ?_ (fun j hj => ?_)
    (fun j => ?_) rfl
  · rw [goto_depth]
    exact hk
  · rw [goto_depth]
    exact hother j hj
  · rw [goto_pends]
    exact hpends j

theorem ret_exits {t : T} (hstep : ret cfg t s = some s') :
    Exits cfg (.user t) s s' := by
  rw [ret] at hstep
  cases hp : s.user t with
  | calling n =>
      rw [hp] at hstep
      cases n with
      | zero =>
          obtain rfl := Option.some.inj hstep
          exact exits_goto .racApi (by rw [hp]; rfl)
            (fun j hj => by
              rw [hp]; cases j <;> first | rfl | exact absurd rfl hj)
            fun j => by rw [hp]; cases j <;> rfl
      | succ n =>
          obtain rfl := Option.some.inj hstep
          exact exits_goto .racApi (by rw [hp]; rfl)
            (fun j hj => by
              rw [hp]; cases j <;> first | rfl | exact absurd rfl hj)
            fun j => by rw [hp]; cases j <;> rfl
  | _ => rw [hp] at hstep; cases hstep

theorem callbackRet_exits (hstep : step cfg s .callbackRet = some s') :
    Exits cfg .usp s s' := by
  rw [step] at hstep
  split at hstep
  · cases hstep
  · next hnested =>
      obtain rfl := Option.some.inj hstep
      refine .release .racApi { s with nested := s.nested - 1 }
        (moved_usp rfl rfl rfl (Or.inl rfl)) ?_ (fun j hj => ?_) (fun _ => rfl) rfl
      · show (s.pc.holds .racApi).toNat + (s.nested - 1) + 1
          = (s.pc.holds .racApi).toNat + s.nested
        omega
      · cases j with
        | racApi => exact absurd rfl hj
        | initialization => rfl

/-- The statements of the wait that do not lock. -/
theorem userStatement_exits {t : T} {place : Nat} (hinit : s.user t ≠ .initLock)
    (hrelock : s.user t ≠ .relock)
    (hstep : userStatement cfg t place s = some s') :
    Exits cfg (.user t) s s' := by
  rw [userStatement] at hstep
  cases hp : s.user t <;> rw [hp] at hstep <;> dsimp only at hstep
  case initLock => exact absurd hp hinit
  case relock => exact absurd hp hrelock
  case initTest =>
    split at hstep
    · obtain rfl := Option.some.inj hstep
      exact exits_goto .initialization (by rw [hp]; rfl)
        (fun j hj => by rw [hp]; cases j <;> first | rfl | exact absurd rfl hj)
        fun j => by rw [hp]; cases j <;> rfl
    · obtain rfl := Option.some.inj hstep
      refine .plain (moved_goto s t _) (fun k => ?_) fun k => ?_
      · rw [goto_depth]
        show _ = (s.user t).depth k
        rw [hp]
        cases k <;> rfl
      · rw [goto_pends]
        show _ = (s.user t).pends k
        rw [hp]
        cases k <;> rfl
  case initUnlock =>
    obtain rfl := Option.some.inj hstep
    exact exits_goto .initialization (by rw [hp]; rfl)
      (fun j hj => by rw [hp]; cases j <;> first | rfl | exact absurd rfl hj)
      fun j => by rw [hp]; cases j <;> rfl
  all_goals cases hstep

/-- A thread of the application locks. -/
theorem enters_goto (k : MutexId) {t : T} {p : UserPc} (place : Nat)
    (hdepth : ∀ j, p.depth j = (s.user t).depth j)
    (hout : ∀ j, (s.user t).pends j = false)
    (hpends : ∀ j, p.pends j = decide (j = k)) :
    Enters cfg (.user t) s ((s.goto t p).acquire cfg k (.user t) place) := by
  refine .acquire k place (s.goto t p) (moved_goto s t p) (fun j => ?_) hout
    (fun j => ?_) rfl
  · rw [goto_depth]
    exact hdepth j
  · rw [goto_pends]
    exact hpends j

theorem userStatement_change {t : T} {place : Nat}
    (hstep : userStatement cfg t place s = some s') :
    Exits cfg (.user t) s s' ∨ Enters cfg (.user t) s s' := by
  by_cases hlocks : s.user t = .initLock ∨ s.user t = .relock
  · refine Or.inr ?_
    rw [userStatement] at hstep
    rcases hlocks with hp | hp
    all_goals
      rw [hp] at hstep
      obtain rfl := Option.some.inj hstep
      exact enters_goto .initialization place
        (fun j => by rw [hp]; cases j <;> rfl)
        (fun j => by rw [hp]; cases j <;> rfl) fun j => by cases j <;> rfl
  · exact Or.inl (userStatement_exits (fun hp => hlocks (Or.inl hp))
      (fun hp => hlocks (Or.inr hp)) hstep)

theorem call_enters {t : T} {place : Nat} (hstep : call cfg t place s = some s') :
    Enters cfg (.user t) s s' := by
  rw [call] at hstep
  cases hp : s.user t <;> rw [hp] at hstep <;> dsimp only at hstep
  case application =>
    obtain rfl := Option.some.inj hstep
    exact enters_goto .racApi place (fun j => by rw [hp]; cases j <;> rfl)
      (fun j => by rw [hp]; cases j <;> rfl) fun j => by cases j <;> rfl
  case calling n =>
    obtain ⟨m, hlock, rfl⟩ := Option.map_eq_some_iff.mp hstep
    refine .again .racApi m (s.goto t (.calling (n + 1)))
      (moved_goto s t _) hlock ?_ (fun j hj => ?_) (fun j => ?_) rfl
    · rw [goto_depth]
      show n + 1 + 1 = (s.user t).depth .racApi + 1
      rw [hp]
      rfl
    · rw [goto_depth]
      show _ = (s.user t).depth j
      rw [hp]
      cases j with
      | racApi => exact absurd rfl hj
      | initialization => rfl
    · rw [goto_pends]
      show _ = (s.user t).pends j
      rw [hp]
      cases j <;> rfl
  all_goals cases hstep

theorem callbackCall_enters (hstep : step cfg s .callbackCall = some s') :
    Enters cfg .usp s s' := by
  rw [step] at hstep
  split at hstep
  · obtain ⟨m, hlock, rfl⟩ := Option.map_eq_some_iff.mp hstep
    refine .again .racApi m { s with nested := s.nested + 1 }
      (moved_usp rfl rfl rfl (Or.inl rfl)) hlock rfl (fun j hj => ?_)
      (fun _ => rfl) rfl
    cases j with
    | racApi => exact absurd rfl hj
    | initialization => rfl
  · cases hstep

/-- **WHAT A STATEMENT CAN DO**: go on, unlock a mutex or lock one. -/
theorem step_change {e : Event T} {x : Thread T} (he : e.thread = some x)
    (hstep : step cfg s e = some s') : Exits cfg x s s' ∨ Enters cfg x s s' := by
  cases e with
  | usp a place =>
      obtain rfl := Option.some.inj he
      exact statement_change hstep
  | callbackCall =>
      obtain rfl := Option.some.inj he
      exact Or.inr (callbackCall_enters hstep)
  | callbackRet =>
      obtain rfl := Option.some.inj he
      exact Or.inl (callbackRet_exits hstep)
  | user t place =>
      obtain rfl := Option.some.inj he
      exact userStatement_change hstep
  | call t place =>
      obtain rfl := Option.some.inj he
      exact Or.inr (call_enters hstep)
  | ret t =>
      obtain rfl := Option.some.inj he
      exact Or.inl (ret_exits hstep)
  | wakeUp => cases he
  | timeout => cases he

/-- And what happens to the USP thread from outside. -/
theorem step_outside {e : Event T} (he : e.thread = none)
    (hstep : step cfg s e = some s') :
    s'.lbmMainLoopSem = true ∨ s'.pc = .lock := by
  cases e with
  | wakeUp =>
      obtain rfl := Option.some.inj hstep
      rw [wakeUp]
      split
      · exact Or.inr rfl
      · exact Or.inl rfl
  | timeout =>
      dsimp only [step] at hstep
      split at hstep
      · obtain rfl := Option.some.inj hstep
        exact Or.inr rfl
      · cases hstep
  | _ => cases he

/-! ### What a lock and an unlock leave alone -/

/-- Beside the mutexes, they only let a thread out of `k_mutex_lock`. -/
structure Passed (cfg : Config) (s s' : System T) : Prop where
  nested : s'.nested = s.nested
  isUspInited : s'.isUspInited = s.isUspInited
  sem : s'.lbmMainLoopSem = s.lbmMainLoopSem
  pc : s'.pc = s.pc ∨ s'.pc = s.pc.afterLock cfg
  user : ∀ t, s'.user t = s.user t ∨ s'.user t = (s.user t).afterLock

omit [DecidableEq T] in
theorem setMutex_passed (cfg : Config) (s : System T) (k : MutexId)
    (m : Mutex (Thread T)) : Passed cfg s (s.setMutex k m) :=
  ⟨rfl, rfl, rfl, Or.inl rfl, fun _ => Or.inl rfl⟩

theorem ready_passed (cfg : Config) (s : System T) (k : MutexId)
    (m : Mutex (Thread T)) (x : Thread T) :
    Passed cfg s ((s.setMutex k m).ready cfg x) := by
  cases x with
  | usp => exact ⟨rfl, rfl, rfl, Or.inr rfl, fun _ => Or.inl rfl⟩
  | user u =>
      refine ⟨rfl, rfl, rfl, Or.inl rfl, fun t => ?_⟩
      show Function.update s.user u (s.user u).afterLock t = s.user t
        ∨ Function.update s.user u (s.user u).afterLock t = (s.user t).afterLock
      by_cases htu : t = u
      · subst htu
        exact Or.inr (Function.update_self _ _ _)
      · exact Or.inl (Function.update_of_ne htu _ _)

theorem acquire_passed (cfg : Config) (s : System T) (k : MutexId)
    (x : Thread T) (place : Nat) : Passed cfg s (s.acquire cfg k x place) := by
  rw [System.acquire]
  split
  · exact ready_passed cfg s k _ x
  · exact setMutex_passed cfg s k _

theorem release_passed (cfg : Config) (s : System T) (k : MutexId)
    (x : Thread T) : Passed cfg s (s.release cfg k x) := by
  rw [System.release]
  split
  · split
    · exact ready_passed cfg s k _ _
    · exact setMutex_passed cfg s k _
  · exact ⟨rfl, rfl, rfl, Or.inl rfl, fun _ => Or.inl rfl⟩

/-- **AND WHAT IT CANNOT**: its thread moves, and a mutex lets one through at
    most. -/
theorem step_moved {e : Event T} {x : Thread T} (he : e.thread = some x)
    (hstep : step cfg s e = some s') :
    ∃ s₁, Moved x s s₁ ∧ Passed cfg s₁ s' := by
  rcases step_change he hstep with hexits | henters
  · cases hexits with
    | plain h => exact ⟨s', h, rfl, rfl, rfl, Or.inl rfl, fun _ => Or.inl rfl⟩
    | release k s₁ h _ _ _ hrelease =>
        exact ⟨s₁, h, hrelease ▸ release_passed cfg s₁ k x⟩
  · cases henters with
    | acquire k place s₁ h _ _ _ hacquire =>
        exact ⟨s₁, h, hacquire ▸ acquire_passed cfg s₁ k x place⟩
    | again k m s₁ h _ _ _ _ hset =>
        exact ⟨s₁, h, hset ▸ setMutex_passed cfg s₁ k m⟩

end Statements

/-! ## The invariant -/

/-- Who has the mutexes and who waits for them. -/
structure Mutexes [DecidableEq T] (cfg : Config) (s : System T) : Prop where
  held : ∀ k, cfg.has k = true → Held (s.mutex k) (s.depth k) (s.pends k)
  off : ∀ k, cfg.has k = false → ∀ x, s.pends k x = false

structure Inv [DecidableEq T] (cfg : Config) (s : System T) : Prop where
  control : Control cfg s
  mutexes : Mutexes cfg s

theorem inv_initial [DecidableEq T] (cfg : Config) :
    Inv cfg (initial : System T) where
  control := control_initial cfg
  mutexes :=
    { held := fun k _ => held_free.congr
        (fun x => by cases x <;> cases k <;> rfl)
        fun x => by cases x <;> cases k <;> rfl
      off := fun k _ x => by cases x <;> cases k <;> rfl }

/-! ### The mutexes -/

section Mutexes

variable [DecidableEq T] {cfg : Config} {s s' s₁ : System T} {x : Thread T}

theorem Mutexes.congr (h : Mutexes cfg s) (hmutex : s'.mutex = s.mutex)
    (hdepth : ∀ k y, s'.depth k y = s.depth k y)
    (hpends : ∀ k y, s'.pends k y = s.pends k y) : Mutexes cfg s' where
  held k hk := by
    rw [hmutex]
    exact (h.held k hk).congr (hdepth k) (hpends k)
  off k hk y := (hpends k y).trans (h.off k hk y)

omit [DecidableEq T] in
theorem setMutex_mutex (s : System T) (k j : MutexId) (m : Mutex (Thread T)) :
    (s.setMutex k m).mutex j = if j = k then m else s.mutex j := by
  show Function.update s.mutex k m j = _
  rw [Function.update_apply]

theorem ready_mutex (cfg : Config) (s : System T) (x : Thread T) :
    (s.ready cfg x).mutex = s.mutex := by
  cases x <;> rfl

omit [DecidableEq T] in
theorem setMutex_depth (s : System T) (k j : MutexId) (m : Mutex (Thread T))
    (y : Thread T) : (s.setMutex k m).depth j y = s.depth j y := by
  cases y <;> rfl

omit [DecidableEq T] in
theorem setMutex_pends (s : System T) (k j : MutexId) (m : Mutex (Thread T))
    (y : Thread T) : (s.setMutex k m).pends j y = s.pends j y := by
  cases y <;> rfl

/-- A mutex that is unlocked, and the thread that is let through. -/
theorem release_spec {k : MutexId} (hk : cfg.has k = true) :
    (∀ j, (s.release cfg k x).mutex j
        = if j = k then ((s.mutex k).unlock x).1 else s.mutex j)
      ∧ (∀ j y, (s.release cfg k x).depth j y = s.depth j y
        + if ((s.mutex k).unlock x).2 = some y then (s.pends j y).toNat else 0)
      ∧ ∀ j y, (s.release cfg k x).pends j y
        = (s.pends j y && ((s.mutex k).unlock x).2 ≠ some y) := by
  rw [System.release, if_pos hk]
  rcases (s.mutex k).unlock x with ⟨m, _ | z⟩
  · refine ⟨fun j => setMutex_mutex s k j m, fun j y => ?_, fun j y => ?_⟩
    · exact setMutex_depth s k j m y
    · show (s.setMutex k m).pends j y = _
      rw [setMutex_pends]
      simp
  · refine ⟨fun j => ?_, fun j y => ?_, fun j y => ?_⟩
    · show ((s.setMutex k m).ready cfg z).mutex j = _
      rw [ready_mutex, setMutex_mutex]
    · show ((s.setMutex k m).ready cfg z).depth j y = _
      rw [ready_depth, setMutex_depth, setMutex_pends]
      by_cases hy : y = z
      · rw [if_pos hy, if_pos (congrArg some hy.symm)]
      · rw [if_neg hy, if_neg fun h => hy (Option.some.inj h).symm]
    · show ((s.setMutex k m).ready cfg z).pends j y = _
      rw [ready_pends, setMutex_pends]
      by_cases hy : y = z
      · simp [hy]
      · have hne : z ≠ y := fun h => hy h.symm
        simp [hy, hne]

omit [DecidableEq T] in
theorem Moved.depth_eq (h : Moved x s s₁) {k : MutexId}
    (hx : s₁.depth k x = s.depth k x) (y : Thread T) :
    s₁.depth k y = s.depth k y := by
  by_cases hy : y = x
  · exact hy ▸ hx
  · exact h.depth k y hy

omit [DecidableEq T] in
theorem Moved.pends_eq (h : Moved x s s₁) {k : MutexId}
    (hx : s₁.pends k x = s.pends k x) (y : Thread T) :
    s₁.pends k y = s.pends k y := by
  by_cases hy : y = x
  · exact hy ▸ hx
  · exact h.pends k y hy

theorem has_ne {j k : MutexId} (hj : cfg.has j = true) (hk : cfg.has k = false) :
    j ≠ k := by
  rintro rfl
  exact absurd (hj.symm.trans hk) nofun

/-- Nobody but the one that unlocks and the one that is let through notices. -/
theorem Mutexes.release (h : Mutexes cfg s) {k : MutexId}
    (hk : cfg.has k = true) (hmoved : Moved x s s₁)
    (hdepth : s₁.depth k x + 1 = s.depth k x)
    (hother : ∀ j, j ≠ k → s₁.depth j x = s.depth j x)
    (hpends : ∀ j, s₁.pends j x = s.pends j x) :
    Mutexes cfg (s₁.release cfg k x) := by
  have hpends₁ : ∀ j y, s₁.pends j y = s.pends j y :=
    fun j => hmoved.pends_eq (hpends j)
  obtain ⟨hmutex', hdepth', hpends'⟩ := release_spec (s := s₁) (x := x) hk
  rw [hmoved.mutex] at hmutex' hdepth' hpends'
  have hheld := h.held k hk
  have hpos : 0 < s.depth k x := by omega
  have hready : ∀ y, ((s.mutex k).unlock x).2 = some y →
      y ≠ x ∧ s.pends k y = true :=
    fun y hy => (hheld.unlock_ready hpos hy).2
  refine ⟨fun j hj => ?_, fun j hj y => ?_⟩
  · by_cases hjk : j = k
    · subst hjk
      rw [hmutex', if_pos rfl]
      refine hheld.unlock hpos ?_ (fun y hy => ?_) fun y => ?_
      · rw [hdepth', if_neg fun hx => (hready x hx).1 rfl]
        exact hdepth
      · rw [hdepth', hmoved.depth j y hy, hpends₁]
        by_cases hy' : ((s.mutex j).unlock x).2 = some y
        · rw [if_pos hy', if_pos hy', (hready y hy').2]
          rfl
        · rw [if_neg hy', if_neg hy']
      · rw [hpends', hpends₁]
    · -- who is let through does not pend for another mutex
      rw [hmutex', if_neg hjk]
      have hnot : ∀ y, ((s.mutex k).unlock x).2 = some y →
          s.pends j y = false := fun y hy =>
        pends_unique (hready y hy).2 hjk
      refine (h.held j hj).congr (fun y => ?_) fun y => ?_
      · rw [hdepth', hmoved.depth_eq (hother j hjk), hpends₁]
        by_cases hy : ((s.mutex k).unlock x).2 = some y
        · rw [if_pos hy, hnot y hy]
          rfl
        · rw [if_neg hy]
          rfl
      · rw [hpends', hpends₁]
        by_cases hy : ((s.mutex k).unlock x).2 = some y
        · rw [hnot y hy]
          rfl
        · simp [hy]
  · rw [hpends', hpends₁, h.off j hj]
    rfl

theorem Exits.mutexes (hexits : Exits cfg x s s') (h : Mutexes cfg s) :
    Mutexes cfg s' := by
  cases hexits with
  | plain hmoved hdepth hpends =>
      exact h.congr hmoved.mutex (fun k => hmoved.depth_eq (hdepth k))
        fun k => hmoved.pends_eq (hpends k)
  | release k s₁ hmoved hdepth hother hpends hrelease =>
      subst hrelease
      cases hk : cfg.has k with
      | false =>
          have hsame : s₁.release cfg k x = s₁ := by
            rw [System.release, if_neg (Bool.eq_false_iff.mp hk)]
          have hpends₁ : ∀ j y, s₁.pends j y = s.pends j y :=
            fun j => hmoved.pends_eq (hpends j)
          rw [hsame]
          refine ⟨fun j hj => ?_, fun j hj y => (hpends₁ j y).trans (h.off j hj y)⟩
          rw [hmoved.mutex]
          exact (h.held j hj).congr (hmoved.depth_eq (hother j (has_ne hj hk)))
            (hpends₁ j)
      | true => exact h.release hk hmoved hdepth hother hpends

/-- A thread that locks goes in. -/
theorem Mutexes.through (h : Mutexes cfg s) {k : MutexId}
    {m : Mutex (Thread T)} (hmoved : Moved x s s₁)
    (hm : s₁.lock cfg k x = some m) (hdepth : ∀ j, s₁.depth j x = s.depth j x)
    (hout : ∀ j, s.pends j x = false)
    (hpends : ∀ j, s₁.pends j x = decide (j = k)) :
    Mutexes cfg ((s₁.setMutex k m).ready cfg x) := by
  have hpends' : ∀ j y, ((s₁.setMutex k m).ready cfg x).pends j y
      = s.pends j y := by
    intro j y
    rw [ready_pends, setMutex_pends]
    by_cases hy : y = x
    · subst hy
      rw [hout]
      simp
    · rw [hmoved.pends j y hy]
      simp [hy]
  have hdepth' : ∀ j y, ((s₁.setMutex k m).ready cfg x).depth j y
      = s.depth j y + if y = x ∧ j = k then 1 else 0 := by
    intro j y
    rw [ready_depth, setMutex_depth, setMutex_pends, hmoved.depth_eq (hdepth j)]
    by_cases hy : y = x
    · subst hy
      rw [if_pos rfl, hpends]
      by_cases hjk : j = k <;> simp [hjk]
    · rw [if_neg hy, if_neg fun hand => hy hand.1]
  refine ⟨fun j hj => ?_, fun j hj y => (hpends' j y).trans (h.off j hj y)⟩
  rw [ready_mutex, setMutex_mutex]
  rw [System.lock, hmoved.mutex] at hm
  by_cases hjk : j = k
  · subst hjk
    rw [if_pos hj] at hm
    rw [if_pos rfl]
    refine ((h.held j hj).lock hm ?_ fun y hy => ?_).congr
      (fun _ => rfl) (hpends' j)
    · rw [hdepth', if_pos ⟨rfl, rfl⟩]
    · rw [hdepth', if_neg fun hand => hy hand.1]
      rfl
  · rw [if_neg hjk, hmoved.mutex]
    refine (h.held j hj).congr (fun y => ?_) (hpends' j)
    rw [hdepth', if_neg fun hand => hjk hand.2]
    rfl

/-- Only a mutex that is compiled in blocks. -/
theorem has_of_lock {k : MutexId} (hlock : s.lock cfg k x = none) :
    cfg.has k = true := by
  by_contra hk
  rw [System.lock, if_neg hk] at hlock
  cases hlock

/-- Or it pends. -/
theorem Mutexes.pend (h : Mutexes cfg s) {k : MutexId} (hmoved : Moved x s s₁)
    (hm : s₁.lock cfg k x = none) (hdepth : ∀ j, s₁.depth j x = s.depth j x)
    (hout : ∀ j, s.pends j x = false)
    (hpends : ∀ j, s₁.pends j x = decide (j = k)) (place : Nat) :
    Mutexes cfg (s₁.setMutex k ((s₁.mutex k).pend x place)) := by
  have hk := has_of_lock hm
  rw [System.lock, if_pos hk, hmoved.mutex] at hm
  have hdepth₁ : ∀ j y, s₁.depth j y = s.depth j y :=
    fun j => hmoved.depth_eq (hdepth j)
  have hpends₁ : ∀ j, j ≠ k → ∀ y, s₁.pends j y = s.pends j y := by
    intro j hj
    refine hmoved.pends_eq ?_
    rw [hpends, hout, decide_eq_false hj]
  refine ⟨fun j hj => ?_, fun j hj y => ?_⟩
  · rw [setMutex_mutex, hmoved.mutex]
    by_cases hjk : j = k
    · subst hjk
      rw [if_pos rfl]
      refine ((h.held j hj).pend hm (hout j) place ?_ (hmoved.pends j)).congr
        (fun y => (setMutex_depth s₁ j j _ y).trans (hdepth₁ j y))
        (fun y => setMutex_pends s₁ j j _ y)
      rw [hpends, decide_eq_true rfl]
    · rw [if_neg hjk]
      exact (h.held j hj).congr
        (fun y => (setMutex_depth s₁ k j _ y).trans (hdepth₁ j y))
        fun y => (setMutex_pends s₁ k j _ y).trans (hpends₁ j hjk y)
  · rw [setMutex_pends, hpends₁ j (has_ne hk hj).symm]
    exact h.off j hj y

/-- A thread that locks once more goes in. -/
theorem Mutexes.again (h : Mutexes cfg s) {k : MutexId} {m : Mutex (Thread T)}
    (hmoved : Moved x s s₁) (hlock : s₁.lock cfg k x = some m)
    (hdepth : s₁.depth k x = s.depth k x + 1)
    (hother : ∀ j, j ≠ k → s₁.depth j x = s.depth j x)
    (hpends : ∀ j, s₁.pends j x = s.pends j x) :
    Mutexes cfg (s₁.setMutex k m) := by
  have hpends' : ∀ j y, (s₁.setMutex k m).pends j y = s.pends j y :=
    fun j y => (setMutex_pends s₁ k j m y).trans (hmoved.pends_eq (hpends j) y)
  rw [System.lock, hmoved.mutex] at hlock
  refine ⟨fun j hj => ?_, fun j hj y => (hpends' j y).trans (h.off j hj y)⟩
  rw [setMutex_mutex]
  by_cases hjk : j = k
  · subst hjk
    rw [if_pos hj] at hlock
    rw [if_pos rfl]
    refine ((h.held j hj).lock hlock ?_ fun y hy => ?_).congr
      (fun _ => rfl) (hpends' j)
    · rw [setMutex_depth]
      exact hdepth
    · rw [setMutex_depth]
      exact hmoved.depth j y hy
  · rw [if_neg hjk, hmoved.mutex]
    refine (h.held j hj).congr (fun y => ?_) (hpends' j)
    rw [setMutex_depth]
    exact hmoved.depth_eq (hother j hjk) y

theorem Enters.mutexes (henters : Enters cfg x s s') (h : Mutexes cfg s) :
    Mutexes cfg s' := by
  cases henters with
  | acquire k place s₁ hmoved hdepth hout hpends hacquire =>
      subst hacquire
      rw [System.acquire]
      cases hm : s₁.lock cfg k x with
      | some m => exact h.through hmoved hm hdepth hout hpends
      | none => exact h.pend hmoved hm hdepth hout hpends place
  | again k m s₁ hmoved hlock hdepth hother hpends hset =>
      subst hset
      exact h.again hmoved hlock hdepth hother hpends

end Mutexes

/-! ### In every run -/

section Runs

variable [DecidableEq T] {cfg : Config} {s s' : System T}

/-- A sleep has no mutex, and the semaphore is none. -/
theorem wakeUp_mutexes (h : Mutexes cfg s) : Mutexes cfg (wakeUp s) := by
  rw [wakeUp]
  split
  · next hpc =>
      refine h.congr rfl (fun k y => ?_) fun k y => ?_
      · cases y with
        | usp =>
            show (UspPc.lock.holds k).toNat + s.nestedIn k
              = (s.pc.holds k).toNat + s.nestedIn k
            rw [hpc]
            cases k <;> rfl
        | user t => rfl
      · cases y with
        | usp =>
            show UspPc.lock.pends k = s.pc.pends k
            rw [hpc]
            cases k <;> rfl
        | user t => rfl
  · exact h.congr rfl (fun k y => by cases y <;> rfl) fun k y => by cases y <;> rfl

theorem wakeUp_inv (h : Inv cfg s) : Inv cfg (wakeUp s) :=
  ⟨wakeUp_control h.control, wakeUp_mutexes h.mutexes⟩

/-- Every event keeps the invariant. -/
theorem step_inv {e : Event T} (h : Inv cfg s) (hstep : step cfg s e = some s') :
    Inv cfg s' := by
  refine ⟨step_control h.control hstep, ?_⟩
  cases hthread : e.thread with
  | some x =>
      rcases step_change hthread hstep with hexits | henters
      · exact hexits.mutexes h.mutexes
      · exact henters.mutexes h.mutexes
  | none =>
      cases e with
      | wakeUp =>
          obtain rfl := Option.some.inj hstep
          exact wakeUp_mutexes h.mutexes
      | timeout =>
          dsimp only [step] at hstep
          split at hstep
          · next hpc =>
              obtain rfl := Option.some.inj hstep
              have hwake := wakeUp_mutexes h.mutexes
              rw [wakeUp, if_pos hpc] at hwake
              exact hwake
          · cases hstep
      | _ => cases hthread

theorem run_inv {es : List (Event T)} (h : Inv cfg s)
    (hrun : run (step cfg) s es = some s') : Inv cfg s' :=
  run_invariant (Inv cfg) (fun _ => True)
    (fun _ _ _ _ h hstep => step_inv h hstep) (fun _ _ => trivial) h hrun

end Runs

end UspThread
