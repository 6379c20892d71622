import UspZephyr.UspThreadMutexProofs

/-! # How the USP thread and the application take turns

    Every thread that has one of the two mutexes gives it back by statements of its
    own, and the kernel hands it to the first of those that pend.  So a thread that
    waits has it when the owner and the threads in front of it have had their
    turns: `waiter_returns` says so of the wait for the initialisation, and
    `no_deadlock` of any lock. -/

namespace UspThread

open KMutex StepRun

variable {T : Type}

/-! ## One thread at a time -/

section Turns

variable [DecidableEq T] {cfg : Config} {s s' s₁ : System T} {x : Thread T}
  {k : MutexId}

/-- Statements of one thread alone lead from one state to another. -/
def Alone (cfg : Config) (x : Thread T) (s s' : System T) : Prop :=
  ∃ es : List (Event T),
    (∀ e ∈ es, e.thread = some x) ∧ run (step cfg) s es = some s'

/-- The threads of a list have their turns, each with statements of its own. -/
def InTurn (cfg : Config) : List (Thread T) → System T → System T → Prop
  | [], s, s' => s' = s
  | x :: xs, s, s' => ∃ s₁, Alone cfg x s s₁ ∧ InTurn cfg xs s₁ s'

theorem Alone.refl : Alone cfg x s s :=
  ⟨[], fun _ he => absurd he List.not_mem_nil, rfl⟩

theorem Alone.head {e : Event T} {s'' : System T} (he : e.thread = some x)
    (hstep : step cfg s e = some s') (h : Alone cfg x s' s'') :
    Alone cfg x s s'' := by
  obtain ⟨es, hes, hrun⟩ := h
  refine ⟨e :: es, fun f hf => ?_, ?_⟩
  · rcases List.mem_cons.mp hf with rfl | hf
    · exact he
    · exact hes f hf
  · show (step cfg s e).bind _ = _
    rw [hstep]
    exact hrun

/-- What the statements of some threads keep, their turns keep. -/
theorem InTurn.invariant {P : System T → Prop} {xs : List (Thread T)}
    (hstep : ∀ s e s', (∃ x ∈ xs, e.thread = some x) → P s →
      step cfg s e = some s' → P s')
    (h : InTurn cfg xs s s') (hs : P s) : P s' := by
  have hgen : ∀ ys : List (Thread T), (∀ y ∈ ys, y ∈ xs) → ∀ s, P s →
      InTurn cfg ys s s' → P s' := by
    intro ys
    induction ys with
    | nil =>
        rintro - s hs rfl
        exact hs
    | cons y ys ih =>
        rintro hys s hs ⟨s₁, ⟨es, hes, hrun⟩, hrest⟩
        refine ih (fun z hz => hys z (List.mem_cons_of_mem y hz)) s₁ ?_ hrest
        exact run_invariant P (fun e => ∃ x ∈ xs, e.thread = some x) hstep
          (fun e he => ⟨y, hys y List.mem_cons_self, hes e he⟩) hs hrun
  exact hgen xs (fun _ hy => hy) s hs h

theorem InTurn.inv {xs : List (Thread T)} (h : InTurn cfg xs s s')
    (hs : Inv cfg s) : Inv cfg s' :=
  h.invariant (fun _ _ _ _ h hstep => step_inv h hstep) hs

/-- A thread that has still to lock stays where it is while others go on. -/
theorem step_stays {e : Event T} {t : T} (he : e.thread = some x)
    (hx : x ≠ .user t) {p : UserPc} (hp : p = .initLock ∨ p = .relock)
    (ht : s.user t = p) (hstep : step cfg s e = some s') : s'.user t = p := by
  obtain ⟨s₁, hmoved, hpassed⟩ := step_moved he hstep
  have hsame : s₁.user t = p := by
    rcases hmoved.user t hx with hsame | ⟨hwaiting, -⟩
    · exact hsame.trans ht
    · rw [ht] at hwaiting
      rcases hp with rfl | rfl <;> cases hwaiting
  rcases hpassed.user t with hkept | hafter
  · exact hkept.trans hsame
  · rw [hafter, hsame]
    rcases hp with rfl | rfl <;> rfl

/-- The initialisation is not undone. -/
theorem step_isUspInited {e : Event T} (he : e.thread = some x)
    (hinited : s.isUspInited = true) (hstep : step cfg s e = some s') :
    s'.isUspInited = true := by
  obtain ⟨s₁, hmoved, hpassed⟩ := step_moved he hstep
  exact hpassed.isUspInited.trans (hmoved.isUspInited hinited)

/-! ### Out again -/

/-- How many statements `usp_main_thread` has to go until it has no mutex; an
    application that is not initialised is the short way. -/
def UspPc.statementsLeft : UspPc → Nat
  | .racRunEngine | .notifySet => 3
  | .modemRunEngine | .maxSleepTime => 4
  | .isModemInitialized | .flrpRunEngine | .notifyBroadcast => 2
  | .unlockEarly | .unlock | .notifyUnlock => 1
  | _ => 0

def UserPc.statementsLeft : UserPc → Nat
  | .calling n => n + 1
  | .initTest => 2
  | .initUnlock => 1
  | _ => 0

def System.statementsLeft (s : System T) : Thread T → Nat
  | .usp => s.pc.statementsLeft + s.nested
  | .user t => (s.user t).statementsLeft

omit [DecidableEq T] in
theorem depth_of_statementsLeft (h : s.statementsLeft x = 0) :
    s.depth k x = 0 := by
  cases x with
  | usp =>
      have hpc : s.pc.statementsLeft = 0 := Nat.eq_zero_of_add_eq_zero_right h
      have hnested : s.nested = 0 := Nat.eq_zero_of_add_eq_zero_left h
      have hin : s.nestedIn k = 0 := by
        cases k with
        | racApi => exact hnested
        | initialization => rfl
      show (s.pc.holds k).toNat + s.nestedIn k = 0
      rw [hin]
      cases hp : s.pc <;> rw [hp] at hpc <;> cases k <;> first | rfl | cases hpc
  | user t =>
      have ht : (s.user t).statementsLeft = 0 := h
      show (s.user t).depth k = 0
      cases hp : s.user t <;> rw [hp] at ht <;> cases k <;> first | rfl | cases ht

omit [DecidableEq T] in
/-- Nobody is inside both. -/
theorem depth_unique (h : Control cfg s) (hx : 0 < s.depth k x) {j : MutexId}
    (hjk : j ≠ k) : s.depth j x = 0 := by
  cases x with
  | usp =>
      cases hengine : s.pc.engine with
      | true =>
          -- an engine is inside the API
          cases k with
          | racApi =>
              cases j with
              | racApi => exact absurd rfl hjk
              | initialization =>
                  show (s.pc.holds .initialization).toNat + 0 = 0
                  cases hpc : s.pc <;> rw [hpc] at hengine <;>
                    first | rfl | cases hengine
          | initialization =>
              have hx : 0 < (s.pc.holds .initialization).toNat + 0 := hx
              cases hpc : s.pc <;> rw [hpc] at hengine hx <;>
                first | exact absurd hx (by decide) | cases hengine
      | false =>
          have hzero := h.not_nested hengine
          have hnestedIn : ∀ i, s.nestedIn i = 0 := by
            intro i
            cases i with
            | racApi => exact hzero
            | initialization => rfl
          have hx : 0 < (s.pc.holds k).toNat + s.nestedIn k := hx
          show (s.pc.holds j).toNat + s.nestedIn j = 0
          rw [hnestedIn] at hx ⊢
          cases hpc : s.pc <;> rw [hpc] at hx <;> cases k <;> cases j <;>
            first | rfl | exact absurd rfl hjk | cases hx
  | user t =>
      have hx : 0 < (s.user t).depth k := hx
      show (s.user t).depth j = 0
      cases hp : s.user t <;> rw [hp] at hx <;> cases k <;> cases j <;>
        first | rfl | exact absurd rfl hjk | cases hx

/-- Its own unlock leaves the USP thread where it is. -/
theorem release_stays (k : MutexId) (hpc : s.pc.afterLock cfg = s.pc) :
    (s.release cfg k .usp).pc = s.pc := by
  rcases (release_passed cfg s k .usp).pc with hsame | hafter
  · exact hsame
  · exact hafter.trans hpc

/-- The USP thread comes nearer. -/
theorem statement_nearer (hzero : s.nested = 0) (h : s.pc.statementsLeft ≠ 0) :
    ∃ a s', statement cfg a 0 s = some s' ∧ Exits cfg .usp s s'
      ∧ s'.nested = 0 ∧ s'.pc.statementsLeft < s.pc.statementsLeft := by
  have hnotify : s.pc ≠ .notifyLock := fun hpc => h (by rw [hpc]; rfl)
  have hlock : s.pc ≠ .lock := fun hpc => h (by rw [hpc]; rfl)
  have hunlock : ∀ (k : MutexId) {p : UspPc}, p.afterLock cfg = p →
      p.statementsLeft = 0 →
      ({ s with pc := p }.release cfg k .usp).nested = 0
        ∧ ({ s with pc := p }.release cfg k .usp).pc.statementsLeft < 1 := by
    intro k p hafter hdone
    refine ⟨(release_passed cfg _ _ _).nested.trans hzero, ?_⟩
    rw [release_stays (s := { s with pc := p }) k hafter]
    exact Nat.lt_one_iff.mpr hdone
  have hnext : ∃ a s', statement cfg a 0 s = some s' ∧ s'.nested = 0
      ∧ s'.pc.statementsLeft < s.pc.statementsLeft := by
    refine ⟨⟨false, 0, false, false⟩, ?_⟩
    rw [statement]
    cases hpc : s.pc <;> first | (rw [hpc] at h; exact absurd rfl h) | skip
    case modemRunEngine | flrpRunEngine =>
      dsimp only
      rw [if_neg (Decidable.not_not.mpr hzero)]
      exact ⟨_, rfl, hzero, by simp [UspPc.statementsLeft]⟩
    case racRunEngine =>
      dsimp only
      rw [if_neg (Decidable.not_not.mpr hzero)]
      refine ⟨_, rfl, hzero, ?_⟩
      cases cfg.flrp <;> simp [UspPc.statementsLeft]
    case notifyUnlock => exact ⟨_, rfl, hunlock .initialization rfl rfl⟩
    case unlockEarly | unlock => exact ⟨_, rfl, hunlock .racApi rfl rfl⟩
    all_goals exact ⟨_, rfl, hzero, by simp [UspPc.statementsLeft]⟩
  obtain ⟨a, s', hstep, hrest⟩ := hnext
  exact ⟨a, s', hstep, statement_exits hnotify hlock hstep, hrest⟩

/-- After the notification, the wait is over at the next test. -/
theorem initTest_statement (cfg : Config) {t : T} (place : Nat)
    (hp : s.user t = .initTest) (hinited : s.isUspInited = true) :
    userStatement cfg t place s = some (s.goto t .initUnlock) := by
  rw [userStatement, hp]
  exact if_neg (by rw [hinited]; decide)

theorem goto_user (s : System T) (t : T) (p : UserPc) :
    (s.goto t p).user t = p := Function.update_self _ _ _

/-- And a thread of the application. -/
theorem release_at (k : MutexId) {t : T} {p : UserPc} (hp : p.afterLock = p) :
    ((s.goto t p).release cfg k (.user t)).user t = p := by
  rcases (release_passed cfg (s.goto t p) k (.user t)).user t with
    hsame | hafter
  · exact hsame.trans (goto_user s t p)
  · rw [hafter, goto_user, hp]

/-- So does a thread of the application. -/
theorem user_nearer {t : T} (h : (s.user t).statementsLeft ≠ 0) :
    ∃ e s', e.thread = some (.user t) ∧ step cfg s e = some s'
      ∧ Exits cfg (.user t) s s'
      ∧ (s'.user t).statementsLeft < (s.user t).statementsLeft := by
  have hself : ∀ {p : UserPc} (k : MutexId) {n : Nat}, p.afterLock = p →
      p.statementsLeft < n →
      (((s.goto t p).release cfg k (.user t)).user t).statementsLeft < n := by
    intro p k n hp hlt
    rw [release_at k hp]
    exact hlt
  cases hp : s.user t <;> first | (rw [hp] at h; exact absurd rfl h) | skip
  case calling n =>
    cases n with
    | zero =>
        have hstep : ret cfg t s
            = some ((s.goto t .application).release cfg .racApi (.user t)) := by
          rw [ret, hp]
        exact ⟨.ret t, _, rfl, hstep, ret_exits hstep,
          hself .racApi rfl Nat.one_pos⟩
    | succ n =>
        have hstep : ret cfg t s
            = some ((s.goto t (.calling n)).release cfg .racApi (.user t)) := by
          rw [ret, hp]
        exact ⟨.ret t, _, rfl, hstep, ret_exits hstep,
          hself .racApi rfl (Nat.lt_succ_self (n + 1))⟩
  case initTest =>
    have hexits : ∀ {s'}, userStatement cfg t 0 s = some s' →
        Exits cfg (.user t) s s' :=
      userStatement_exits (by rw [hp]; decide) (by rw [hp]; decide)
    cases hinited : s.isUspInited with
    | false =>
        have hstep : userStatement cfg t 0 s = some
            ((s.goto t .waiting).release cfg .initialization (.user t)) := by
          rw [userStatement, hp]
          exact if_pos hinited
        exact ⟨.user t 0, _, rfl, hstep, hexits hstep,
          hself .initialization rfl Nat.two_pos⟩
    | true =>
        have hstep := initTest_statement cfg 0 hp hinited
        refine ⟨.user t 0, _, rfl, hstep, hexits hstep, ?_⟩
        show (Function.update s.user t .initUnlock t).statementsLeft < 2
        rw [Function.update_self]
        exact Nat.lt_succ_self 1
  case initUnlock =>
    have hstep : userStatement cfg t 0 s = some
        ((s.goto t .application).release cfg .initialization (.user t)) := by
      rw [userStatement, hp]
    exact ⟨.user t 0, _, rfl, hstep,
      userStatement_exits (by rw [hp]; decide) (by rw [hp]; decide) hstep,
      hself .initialization rfl Nat.one_pos⟩

theorem nearer (hs : Control cfg s) (h : s.statementsLeft x ≠ 0) :
    ∃ e s', e.thread = some x ∧ step cfg s e = some s' ∧ Exits cfg x s s'
      ∧ s'.statementsLeft x < s.statementsLeft x := by
  cases x with
  | usp =>
      by_cases hzero : s.nested = 0
      · have hpc : s.pc.statementsLeft ≠ 0 := by
          intro hpc
          refine h ?_
          show s.pc.statementsLeft + s.nested = 0
          rw [hpc, hzero]
        obtain ⟨a, s', hstep, hexits, hzero', hlt⟩ :
            ∃ a s', statement cfg a 0 s = some s' ∧ Exits cfg .usp s s'
              ∧ s'.nested = 0 ∧ s'.pc.statementsLeft < s.pc.statementsLeft :=
          statement_nearer hzero hpc
        refine ⟨.usp a 0, s', rfl, hstep, hexits, ?_⟩
        show s'.pc.statementsLeft + s'.nested < s.pc.statementsLeft + s.nested
        omega
      · have hstep : step cfg s .callbackRet = some
            ({ s with nested := s.nested - 1 }.release cfg .racApi .usp) :=
          if_neg hzero
        refine ⟨.callbackRet, _, rfl, hstep, callbackRet_exits hstep, ?_⟩
        have hengine := hs.nested hzero
        have hafter : s.pc.afterLock cfg = s.pc := by
          cases hpc : s.pc <;> rw [hpc] at hengine <;> first | rfl | cases hengine
        have hsame : ({ s with nested := s.nested - 1 }.release cfg .racApi
            .usp).pc = s.pc :=
          release_stays (s := { s with nested := s.nested - 1 }) .racApi hafter
        show UspPc.statementsLeft _ + System.nested _
          < s.pc.statementsLeft + s.nested
        rw [hsame, (release_passed cfg _ .racApi .usp).nested]
        show s.pc.statementsLeft + (s.nested - 1)
          < s.pc.statementsLeft + s.nested
        omega
  | user t => exact user_nearer h

/-- **EVERY THREAD GIVES BACK WHAT IT HAS**, by statements of its own, and then the
    first thread that pends has it. -/
theorem gives_back (h : Inv cfg s) (hk : cfg.has k = true)
    (hx : 0 < s.depth k x) :
    ∃ s', Alone cfg x s s' ∧ s'.mutex k = .handOver (s.mutex k).waiters := by
  induction hn : s.statementsLeft x using Nat.strongRecOn generalizing s with
  | ind n ih =>
      subst hn
      have hleft : s.statementsLeft x ≠ 0 := by
        intro hzero
        rw [depth_of_statementsLeft hzero] at hx
        exact absurd hx (Nat.lt_irrefl 0)
      obtain ⟨e, s₁, he, hstep, hexits, hlt⟩ := nearer h.control hleft
      have h₁ := step_inv h hstep
      -- the rest of the way, when the mutex has not been given back
      have hrest : 0 < s₁.depth k x →
          (s₁.mutex k).waiters = (s.mutex k).waiters →
          ∃ s', Alone cfg x s s'
            ∧ s'.mutex k = .handOver (s.mutex k).waiters := by
        intro hx₁ hwaiters
        obtain ⟨s', halone, hs'⟩ := ih _ hlt h₁ hx₁ rfl
        exact ⟨s', halone.head he hstep, hwaiters ▸ hs'⟩
      cases hexits with
      | plain hmoved hdepth =>
          exact hrest (hdepth k ▸ hx) (by rw [hmoved.mutex])
      | release j s₀ hmoved hdepth _ _ hrelease =>
          have hjk : k = j := by
            by_contra hjk
            rw [depth_unique h.control (by omega : 0 < s.depth j x) hjk] at hx
            exact absurd hx (Nat.lt_irrefl 0)
          subst hjk
          subst hrelease
          obtain ⟨hmutex, hdepth', -⟩ := release_spec (s := s₀) (x := x) hk
          rw [hmoved.mutex] at hmutex hdepth'
          rcases (h.mutexes.held k hk).unlock_cases hx with
            ⟨hmore, hunlock⟩ | ⟨-, hunlock⟩
          · refine hrest ?_ ?_
            · rw [hdepth', hunlock]
              omega
            · rw [hmutex, if_pos rfl, hunlock]
          · refine ⟨_, Alone.refl.head he hstep, ?_⟩
            rw [hmutex, if_pos rfl, hunlock]

/-- When the owner and the first threads that pend have had their turns, the next
    one has the mutex. -/
theorem turns (hk : cfg.has k = true) {front back : List (Thread T)}
    {o : Thread T} (h : Inv cfg s) (howner : (s.mutex k).owner = some o)
    (hwaiters : (s.mutex k).waiters = front ++ back) :
    ∃ s', InTurn cfg (o :: front) s s' ∧ s'.mutex k = .handOver back := by
  induction front generalizing s o with
  | nil =>
      obtain ⟨s', halone, hs'⟩ :=
        gives_back h hk ((h.mutexes.held k hk).pos_of_owner howner)
      rw [hwaiters] at hs'
      exact ⟨s', ⟨s', halone, rfl⟩, hs'⟩
  | cons w front ih =>
      obtain ⟨s₁, halone, hs₁⟩ :=
        gives_back h hk ((h.mutexes.held k hk).pos_of_owner howner)
      rw [hwaiters] at hs₁
      have hturn : InTurn cfg [o] s s₁ := ⟨s₁, halone, rfl⟩
      obtain ⟨s', hin, hs'⟩ := @ih s₁ w (hturn.inv h) (by rw [hs₁]; rfl)
        (by rw [hs₁]; rfl)
      exact ⟨s', ⟨s₁, halone, hin⟩, hs'⟩

theorem Mutexes.has_of_pends (h : Mutexes cfg s) (hx : s.pends k x = true) :
    cfg.has k = true := by
  by_contra hk
  rw [h.off k (Bool.eq_false_iff.mpr hk) x] at hx
  cases hx

/-- A thread that pends has the mutex in its turn. -/
theorem pending_turn (h : Inv cfg s) (hx : s.pends k x = true) :
    ∃ s' back, InTurn cfg ((s.mutex k).ahead x) s s'
      ∧ s'.mutex k = ⟨some x, 1, back⟩ := by
  have hk := h.mutexes.has_of_pends hx
  obtain ⟨o, front, back, howner, hwaiters, hahead⟩ :=
    (h.mutexes.held k hk).split hx
  obtain ⟨s', hin, hs'⟩ := turns hk h howner hwaiters
  exact ⟨s', back, hahead ▸ hin, hs'⟩

/-- One that has still to lock finds it free. -/
theorem blocked_turn (h : Inv cfg s) (hlock : s.lock cfg k x = none)
    (hx : s.pends k x = false) :
    ∃ s', InTurn cfg ((s.mutex k).ahead x) s s' ∧ s'.mutex k = .free := by
  have hk := has_of_lock hlock
  rw [System.lock, if_pos hk] at hlock
  have hheld := h.mutexes.held k hk
  obtain ⟨o, -, howner, -⟩ := hheld.available.mp hlock
  rw [hheld.ahead_of_out hx howner]
  exact turns hk h howner (List.append_nil _).symm

/-! ### The end of the wait -/

theorem returns_of_initUnlock {t : T} (hp : s.user t = .initUnlock) :
    ∃ s', Alone cfg (.user t) s s' ∧ s'.user t = .application := by
  refine ⟨_, Alone.refl.head (e := .user t 0) rfl
    (by rw [step, userStatement, hp]), release_at .initialization rfl⟩

theorem returns_of_initTest {t : T} (hp : s.user t = .initTest)
    (hinited : s.isUspInited = true) :
    ∃ s', Alone cfg (.user t) s s' ∧ s'.user t = .application := by
  obtain ⟨s', halone, hs'⟩ :
      ∃ s', Alone cfg (.user t) (s.goto t .initUnlock) s'
        ∧ s'.user t = .application :=
    returns_of_initUnlock (goto_user s t .initUnlock)
  exact ⟨s', halone.head (e := .user t 0) rfl (initTest_statement cfg 0 hp hinited),
    hs'⟩

theorem returns_of_lock {t : T} {m : Mutex (Thread T)}
    (hp : s.user t = .initLock ∨ s.user t = .relock)
    (hinited : s.isUspInited = true)
    (hlock : s.lock cfg .initialization (.user t) = some m) :
    ∃ s', Alone cfg (.user t) s s' ∧ s'.user t = .application := by
  have hacquire : (s.goto t .initPending).acquire cfg .initialization (.user t) 0
      = ((s.goto t .initPending).setMutex .initialization m).ready cfg
        (.user t) := by
    have hlock' : (s.goto t .initPending).lock cfg .initialization (.user t)
        = some m := hlock
    rw [System.acquire, hlock']
  have htest : (((s.goto t .initPending).setMutex .initialization m).ready cfg
      (.user t)).user t = .initTest := by
    show Function.update (s.goto t .initPending).user t
      ((s.goto t .initPending).user t).afterLock t = _
    rw [Function.update_self, goto_user]
    rfl
  obtain ⟨s', halone, hs'⟩ :
      ∃ s', Alone cfg (.user t) (((s.goto t .initPending).setMutex
          .initialization m).ready cfg (.user t)) s'
        ∧ s'.user t = .application :=
    returns_of_initTest htest hinited
  refine ⟨s', halone.head (e := .user t 0) rfl ?_, hs'⟩
  rw [step, userStatement, ← hacquire]
  rcases hp with hp | hp <;> rw [hp]

theorem returns_of_calling {t : T} {n : Nat} (hp : s.user t = .calling n) :
    ∃ s', Alone cfg (.user t) s s' ∧ s'.user t = .application := by
  induction n generalizing s with
  | zero =>
      refine ⟨_, Alone.refl.head (e := .ret t) rfl (by rw [step, ret, hp]), ?_⟩
      exact release_at .racApi rfl
  | succ n ih =>
      obtain ⟨s', halone, hs'⟩ := @ih
        ((s.goto t (.calling n)).release cfg .racApi (.user t))
        (release_at .racApi rfl)
      exact ⟨s', halone.head (e := .ret t) rfl (by rw [step, ret, hp]), hs'⟩

/-- Who has to go on before a thread of the application does. -/
def System.ahead (s : System T) (t : T) : List (Thread T) :=
  match s.user t with
  | .initLock | .initPending | .relock =>
      (s.mutex .initialization).ahead (.user t)
  | .callPending => (s.mutex .racApi).ahead (.user t)
  | _ => []

/-- With the mutex after its turn, the thread has to go on alone. -/
theorem returns_of_pending {t : T} (h : Inv cfg s)
    (hinited : s.isUspInited = true) (hx : s.pends k (.user t) = true) :
    ∃ s₁ s', InTurn cfg ((s.mutex k).ahead (.user t)) s s₁
      ∧ Alone cfg (.user t) s₁ s' ∧ s'.user t = .application := by
  have hk : cfg.has k = true := h.mutexes.has_of_pends hx
  obtain ⟨s₁, back, hturns, hmutex⟩ := pending_turn h hx
  have hinv := hturns.inv h
  have hinited₁ : s₁.isUspInited = true :=
    hturns.invariant (P := fun s => s.isUspInited = true)
      (fun _ _ _ ⟨_, _, he⟩ hs hstep => step_isUspInited he hs hstep) hinited
  have hdepth : (s₁.user t).depth k = 1 := by
    have hheld := (hinv.mutexes.held k hk).depth (.user t)
    rw [hmutex, if_pos rfl] at hheld
    exact hheld
  suffices hrest : ∃ s', Alone cfg (.user t) s₁ s' ∧ s'.user t = .application by
    obtain ⟨s', halone, hs'⟩ := hrest
    exact ⟨s₁, s', hturns, halone, hs'⟩
  cases hp : s₁.user t with
  | initTest => exact returns_of_initTest hp hinited₁
  | initUnlock => exact returns_of_initUnlock hp
  | calling n => exact returns_of_calling hp
  | _ => rw [hp] at hdepth; cases k <;> cases hdepth

/-- Who has still to lock finds the mutex free after those in front. -/
theorem returns_of_locking {t : T} (h : Inv cfg s)
    (hinited : s.isUspInited = true)
    (hp : s.user t = .initLock ∨ s.user t = .relock) :
    ∃ s₁ s', InTurn cfg ((s.mutex .initialization).ahead (.user t)) s s₁
      ∧ Alone cfg (.user t) s₁ s' ∧ s'.user t = .application := by
  have hheld := h.mutexes.held .initialization rfl
  have hout : s.pends .initialization (.user t) = false := by
    show (s.user t).pends .initialization = false
    rcases hp with hp | hp <;> rw [hp] <;> rfl
  have hnot : (s.mutex .initialization).owner ≠ some (.user t) := by
    intro howner
    have hpos : 0 < (s.user t).depth .initialization := hheld.pos_of_owner howner
    rcases hp with hp | hp <;> rw [hp] at hpos <;> cases hpos
  cases hlock : s.lock cfg .initialization (.user t) with
  | some m =>
      have howner : (s.mutex .initialization).owner = none := by
        by_contra hne
        obtain ⟨o, ho⟩ := Option.ne_none_iff_exists'.mp hne
        have hnone : (s.mutex .initialization).lock (.user t) = none :=
          hheld.available.mpr ⟨o, fun hot => hnot (hot ▸ ho), ho,
            hheld.pos_of_owner ho⟩
        have hsome : (s.mutex .initialization).lock (.user t) = some m := hlock
        rw [hnone] at hsome
        cases hsome
      obtain ⟨s', halone, hs'⟩ := returns_of_lock hp hinited hlock
      refine ⟨s, s', ?_, halone, hs'⟩
      rw [hheld.ahead_of_free howner]
      exact rfl
  | none =>
      obtain ⟨s₁, hturns, hfree⟩ := blocked_turn h hlock hout
      have hkept : (s₁.user t = .initLock ∨ s₁.user t = .relock)
          ∧ s₁.isUspInited = true := by
        refine hturns.invariant
          (P := fun s => (s.user t = .initLock ∨ s.user t = .relock)
            ∧ s.isUspInited = true) ?_ ⟨hp, hinited⟩
        rintro v e v' ⟨x, hx, he⟩ ⟨hv, hvinited⟩ hstep
        have hxt : x ≠ .user t := by
          rintro rfl
          exact not_mem_ahead hnot hx
        refine ⟨hv.imp (fun hv => ?_) fun hv => ?_,
          step_isUspInited he hvinited hstep⟩
        · exact step_stays he hxt (Or.inl rfl) hv hstep
        · exact step_stays he hxt (Or.inr rfl) hv hstep
      have hlock₁ : s₁.lock cfg .initialization (.user t)
          = some ⟨some (.user t), 1, []⟩ := by
        show (s₁.mutex .initialization).lock (.user t) = _
        rw [hfree]
        rfl
      obtain ⟨s', halone, hs'⟩ := returns_of_lock hkept.1 hkept.2 hlock₁
      exact ⟨s₁, s', hturns, halone, hs'⟩

end Turns

/-! ## In every run -/

section Main

variable [DecidableEq T] {cfg : Config} {s : System T} {es : List (Event T)}

private def turnsConfig : Config := ⟨true, true, false, 1000⟩

private def turnsAnswers : Answers := ⟨true, 5000, false, false⟩

/-- Two threads of the application are initialised and call the API while the USP
    thread runs an engine; a third one is inside the wait for the initialisation. -/
private def turnsRun : List (Event (Fin 4)) :=
  List.replicate 8 (.usp turnsAnswers 0)
    ++ [.user 0 0, .user 0 0, .user 0 0, .user 1 0, .user 1 0, .user 1 0,
      .call 0 0, .call 1 1, .user 2 0]

private def turnsState : System (Fin 4) :=
  (run (step turnsConfig) initial turnsRun).getD initial

private theorem turnsRun_run :
    run (step turnsConfig) initial turnsRun = some turnsState := rfl

/-- **THE WAIT ENDS**: once the USP thread is in its loop, a thread of the
    application is back by its own statements, after the turns of the threads in
    front of it. -/
theorem waiter_returns (hrun : run (step cfg) initial es = some s)
    (hloop : s.pc.inLoop = true) (t : T) :
    ∃ s₁ s', InTurn cfg (s.ahead t) s s₁ ∧ Alone cfg (.user t) s₁ s'
      ∧ s'.user t = .application := by
  have hinv := run_inv (inv_initial cfg) hrun
  obtain ⟨hset, -, hbroadcast⟩ := inLoop_spec hloop
  have hinited : s.isUspInited = true := by
    rw [hinv.control.inited, hset]
    rfl
  -- a thread that waits for no mutex goes on alone
  have hself : (∃ s', Alone cfg (.user t) s s' ∧ s'.user t = .application) →
      ∃ s₁ s', InTurn cfg [] s s₁ ∧ Alone cfg (.user t) s₁ s'
        ∧ s'.user t = .application := by
    rintro ⟨s', halone, hs'⟩
    exact ⟨s, s', rfl, halone, hs'⟩
  rw [System.ahead]
  cases hp : s.user t with
  | initLock => exact returns_of_locking hinv hinited (Or.inl hp)
  | relock => exact returns_of_locking hinv hinited (Or.inr hp)
  | initPending | callPending =>
      refine returns_of_pending hinv hinited ?_
      show (s.user t).pends _ = true
      rw [hp]
      rfl
  | initTest => exact hself (returns_of_initTest hp hinited)
  | initUnlock => exact hself (returns_of_initUnlock hp)
  | application => exact hself ⟨s, .refl, hp⟩
  | calling n => exact hself (returns_of_calling hp)
  | waiting =>
      rcases hinv.control.waiting t hp with hbefore | hpc
      · rw [hset] at hbefore
        cases hbefore
      · exact absurd hpc hbroadcast

/-- One that has still to lock, behind the owner. -/
theorem waiter_returns_sample :
    turnsState.ahead 3 = [.user 2]
      ∧ ∃ s₁ s', InTurn turnsConfig (turnsState.ahead 3) turnsState s₁
        ∧ Alone turnsConfig (.user 3) s₁ s' ∧ s'.user 3 = .application :=
  ⟨rfl, waiter_returns turnsRun_run rfl 3⟩

/-- **NO DEADLOCK**: a thread that pends for one of the mutexes has it when the
    owner and the threads that pend in front of it have had one turn each, and for
    a thread that has still to lock it the lock succeeds after the owner and all
    that pend. -/
theorem no_deadlock (hrun : run (step cfg) initial es = some s) (k : MutexId)
    (x : Thread T) :
    (s.pends k x = true → ∃ s', InTurn cfg ((s.mutex k).ahead x) s s'
        ∧ (s'.mutex k).owner = some x)
      ∧ (s.pends k x = false → s.lock cfg k x = none →
        ∃ s', InTurn cfg ((s.mutex k).ahead x) s s'
          ∧ ∃ m, s'.lock cfg k x = some m)
      ∧ (s.lock cfg k x = none →
        x ∉ (s.mutex k).ahead x ∧ ((s.mutex k).ahead x).Nodup) := by
  have hinv := run_inv (inv_initial cfg) hrun
  refine ⟨fun hx => ?_, fun hout hlock => ?_, fun hlock => ?_⟩
  · obtain ⟨s', back, hturns, hmutex⟩ := pending_turn hinv hx
    exact ⟨s', hturns, by rw [hmutex]⟩
  · have hk := has_of_lock hlock
    obtain ⟨s', hturns, hfree⟩ := blocked_turn hinv hlock hout
    refine ⟨s', hturns, ⟨some x, 1, []⟩, ?_⟩
    rw [System.lock, if_pos hk, hfree]
    rfl
  · have hk := has_of_lock hlock
    have hheld := hinv.mutexes.held k hk
    rw [System.lock, if_pos hk] at hlock
    obtain ⟨o, hox, howner, -⟩ := hheld.available.mp hlock
    refine ⟨not_mem_ahead fun hx => ?_, hheld.ahead_nodup x⟩
    exact hox (Option.some.inj (howner.symm.trans hx))

/-- The second of two calls, behind the engine and the first. -/
theorem no_deadlock_sample :
    (turnsState.mutex .racApi).ahead (.user 1) = [.usp, .user 0]
      ∧ ∃ s', InTurn turnsConfig ((turnsState.mutex .racApi).ahead (.user 1))
          turnsState s'
        ∧ (s'.mutex .racApi).owner = some (.user 1) :=
  ⟨rfl, (no_deadlock turnsRun_run .racApi (.user 1)).1 rfl⟩

end Main

end UspThread
