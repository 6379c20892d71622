import UspZephyr.StepRunProofs

/-! # The main loop of the samples with a button

    The interrupt of the button sets a flag and gives a semaphore; `main` looks at
    the flag, does what the sample does on a press, runs the engines unless the
    USP thread does, and waits for the semaphore.  What the sample does, and what
    goes on beside the loop, are parameters.

    `press_not_slept_through` is about every sample; `step_effect` says what a
    step can do to the rest of one. -/

namespace ButtonLoop

open StepRun

variable {Stmt σ E : Type}

/-- A statement of the sample: what it leaves, whether it calls
    `smtc_modem_hal_wake_up`, and the statement after it, if there is one. -/
structure Outcome (Stmt σ : Type) where
  app : σ
  wakeUp : Bool
  next : Option Stmt

/-- A sample. -/
structure App (Stmt σ E : Type) where
  /-- `CONFIG_USP_MAIN_THREAD`. -/
  uspMainThread : Bool
  /-- The first statement on a press. -/
  onPress : Stmt
  /-- The statements; `none` while one blocks. -/
  statement : Stmt → σ → Option (Outcome Stmt σ)
  /-- The engines have nothing of the sample in them. -/
  quiet : σ → Bool
  /-- What goes on beside `main`, which may be in the engines. -/
  other : Bool → E → σ → Option σ

/-- The next statement of `main`. -/
inductive Pc (Stmt : Type) where
  | testPress
  | clearPress
  | onPress (c : Stmt)
  /-- Inside `smtc_modem_run_engine` and `smtc_rac_run_engine`. -/
  | engines
  | irqPending
  | testPressAgain
  /-- Inside `wait_on_sems` or `k_sem_take`. -/
  | wait
  deriving DecidableEq

structure State (Stmt σ : Type) where
  pc : Pc Stmt
  userButtonIsPress : Bool
  lastPressTimestampMs : BitVec 32
  buttonEventSem : Bool
  /-- The semaphore of `smtc_modem_hal_get_event_sem`. -/
  lbmMainLoopSem : Bool
  app : σ

/-- What comes after a press, or if there is none. -/
def afterPress (a : App Stmt σ E) : Pc Stmt :=
  if a.uspMainThread then .testPressAgain else .engines

/-- The next statement of `main`; `pending` is what
    `smtc_rac_is_irq_flag_pending` says. -/
def statement (a : App Stmt σ E) (pending : Bool) (s : State Stmt σ) :
    Option (State Stmt σ) :=
  match s.pc with
  | .testPress =>
      some { s with pc := if s.userButtonIsPress then .clearPress else afterPress a }
  | .clearPress =>
      some { s with userButtonIsPress := false, pc := .onPress a.onPress }
  | .onPress c =>
      (a.statement c s.app).map fun o =>
        { s with
          app := o.app
          lbmMainLoopSem := s.lbmMainLoopSem || o.wakeUp
          pc := o.next.elim (afterPress a) .onPress }
  | .engines => if a.quiet s.app then some { s with pc := .irqPending } else none
  | .irqPending => some { s with pc := if pending then .testPress else .wait }
  | .testPressAgain =>
      some { s with pc := if s.userButtonIsPress then .testPress else .wait }
  | .wait => none

/-- `user_button_callback`, with what the clock says the two times it is asked. -/
def userButtonCallback (now later : BitVec 32) (s : State Stmt σ) : State Stmt σ :=
  let s :=
    if 500 < (now - s.lastPressTimestampMs).toInt then
      { s with lastPressTimestampMs := later, userButtonIsPress := true }
    else s
  { s with buttonEventSem := true }

/-- `main` is inside the engines. -/
def Pc.inEngines : Pc Stmt → Bool
  | .engines => true
  | _ => false

/-- `main` waits. -/
def Pc.waits : Pc Stmt → Bool
  | .wait => true
  | _ => false

inductive Event (E : Type) where
  | main (pending : Bool)
  /-- `main` takes the semaphore of the button, or the other one. -/
  | takeButtonEventSem
  | takeLbmMainLoopSem
  | timeout
  | button (now later : BitVec 32)
  /-- `smtc_modem_hal_wake_up`. -/
  | wakeUp
  | other (e : E)

def step (a : App Stmt σ E) (s : State Stmt σ) : Event E → Option (State Stmt σ)
  | .main pending => statement a pending s
  | .takeButtonEventSem =>
      if s.pc.waits = true ∧ s.buttonEventSem = true then
        some { s with buttonEventSem := false, pc := .testPress }
      else none
  | .takeLbmMainLoopSem =>
      -- the USP thread takes it where there is one
      if s.pc.waits = true ∧ s.lbmMainLoopSem = true ∧ a.uspMainThread = false then
        some { s with lbmMainLoopSem := false, pc := .testPress }
      else none
  | .timeout =>
      if s.pc.waits then some { s with pc := .testPress } else none
  | .button now later => some (userButtonCallback now later s)
  | .wakeUp => some { s with lbmMainLoopSem := true }
  | .other e =>
      (a.other s.pc.inEngines e s.app).map fun app => { s with app := app }

def initial (app : σ) : State Stmt σ := ⟨.testPress, false, 0, false, false, app⟩

/-! ## What a step does -/

/-- The statement of the sample that `main` is at. -/
def Pc.handler : Pc Stmt → Option Stmt
  | .onPress c => some c
  | _ => none

/-- `main` is about to look for a press, or has found one. -/
def Pc.looks : Pc Stmt → Bool
  | .testPress | .clearPress => true
  | _ => false

variable {a : App Stmt σ E} {s t : State Stmt σ}

theorem Pc.handler_of_inEngines {pc : Pc Stmt} (h : pc.inEngines = true) :
    pc.handler = none := by
  cases pc <;> first | rfl | cases h

/-- What a step does to the sample. -/
inductive Effect (a : App Stmt σ E) (s t : State Stmt σ) : Prop where
  /-- Nothing, and `main` may come to the first statement of a press. -/
  | loop (app : t.app = s.app)
      (handler : t.pc.handler = s.pc.handler
        ∨ s.pc.handler = none ∧ t.pc.handler = some a.onPress)
      (engines : s.pc.inEngines = true → a.quiet s.app = false →
        t.pc.inEngines = true)
  | statement {c : Stmt} {o : Outcome Stmt σ} (pc : s.pc = .onPress c)
      (outcome : a.statement c s.app = some o) (app : t.app = o.app)
      (next : t.pc = o.next.elim (afterPress a) .onPress)
  | other {e : E} (app : a.other s.pc.inEngines e s.app = some t.app)
      (pc : t.pc = s.pc)

theorem afterPress_handler (a : App Stmt σ E) : (afterPress a).handler = none := by
  rw [afterPress]
  split <;> rfl

/-- `main` goes on with the statement of the sample that is next. -/
theorem next_handler (a : App Stmt σ E) (next : Option Stmt) :
    (next.elim (afterPress a) Pc.onPress).handler = next := by
  cases next with
  | none => exact afterPress_handler a
  | some c => rfl

theorem statement_effect {pending : Bool} (h : statement a pending s = some t) :
    Effect a s t := by
  obtain ⟨pc, press, last, sem, sem', app⟩ := s
  cases pc with
  | testPress =>
      cases h
      refine .loop rfl (Or.inl ?_) nofun
      show (if press = true then Pc.clearPress else afterPress a).handler = none
      split
      · rfl
      · exact afterPress_handler a
  | clearPress =>
      cases h
      exact .loop rfl (Or.inr ⟨rfl, rfl⟩) nofun
  | onPress c =>
      obtain ⟨o, ho, rfl⟩ := Option.map_eq_some_iff.mp h
      exact .statement rfl ho rfl rfl
  | engines =>
      obtain ⟨hquiet, hsome⟩ := Option.ite_none_right_eq_some.mp h
      cases hsome
      refine .loop rfl (Or.inl rfl) fun _ hbusy => ?_
      rw [hquiet] at hbusy
      cases hbusy
  | irqPending =>
      cases h
      refine .loop rfl (Or.inl ?_) nofun
      cases pending <;> rfl
  | testPressAgain =>
      cases h
      refine .loop rfl (Or.inl ?_) nofun
      cases press <;> rfl
  | wait => cases h

/-- A wait that ends. -/
theorem Effect.woken (hwaits : s.pc.waits = true) (happ : t.app = s.app)
    (ht : t.pc = .testPress) : Effect a s t := by
  have hs : s.pc = .wait := by
    cases hpc : s.pc <;> rw [hpc] at hwaits <;> first | rfl | cases hwaits
  refine .loop happ (Or.inl ?_) fun hengines => ?_
  · rw [hs, ht]
    rfl
  · rw [hs] at hengines
    cases hengines

/-- **ONE STEP** of the whole. -/
theorem step_effect {e : Event E} (h : step a s e = some t) : Effect a s t := by
  cases e with
  | main pending => exact statement_effect h
  | takeButtonEventSem =>
      obtain ⟨hc, hsome⟩ := Option.ite_none_right_eq_some.mp h
      cases hsome
      exact .woken hc.1 rfl rfl
  | takeLbmMainLoopSem =>
      obtain ⟨hc, hsome⟩ := Option.ite_none_right_eq_some.mp h
      cases hsome
      exact .woken hc.1 rfl rfl
  | timeout =>
      obtain ⟨hc, hsome⟩ := Option.ite_none_right_eq_some.mp h
      cases hsome
      exact .woken hc rfl rfl
  | button now later =>
      cases h
      rw [userButtonCallback]
      split <;> exact .loop rfl (Or.inl rfl) fun hengines _ => hengines
  | wakeUp =>
      cases h
      exact .loop rfl (Or.inl rfl) fun hengines _ => hengines
  | other e =>
      obtain ⟨app, happ, rfl⟩ := Option.map_eq_some_iff.mp h
      exact .other happ rfl

/-! ## The button -/

/-- What a step does with the button. -/
inductive ButtonEffect (s t : State Stmt σ) : Prop where
  | kept (press : t.userButtonIsPress = s.userButtonIsPress)
      (sem : t.buttonEventSem = s.buttonEventSem)
      (looks : s.userButtonIsPress = true → s.pc.looks = true →
        t.pc.looks = true)
  | cleared (pc : s.pc = .clearPress) (press : t.userButtonIsPress = false)
  | looked (press : t.userButtonIsPress = s.userButtonIsPress)
      (looks : t.pc.looks = true)
  | pressed (press : s.userButtonIsPress = true → t.userButtonIsPress = true)
      (sem : t.buttonEventSem = true)

theorem statement_buttonEffect {pending : Bool}
    (h : statement a pending s = some t) : ButtonEffect s t := by
  obtain ⟨pc, press, last, sem, sem', app⟩ := s
  cases pc with
  | testPress =>
      cases h
      refine .kept rfl rfl fun hpress _ => ?_
      obtain rfl : press = true := hpress
      rfl
  | clearPress =>
      cases h
      exact .cleared rfl rfl
  | onPress c =>
      obtain ⟨o, -, rfl⟩ := Option.map_eq_some_iff.mp h
      exact .kept rfl rfl nofun
  | engines =>
      obtain ⟨-, hsome⟩ := Option.ite_none_right_eq_some.mp h
      cases hsome
      exact .kept rfl rfl nofun
  | irqPending | testPressAgain =>
      cases h
      exact .kept rfl rfl nofun
  | wait => cases h

theorem step_buttonEffect {e : Event E} (h : step a s e = some t) :
    ButtonEffect s t := by
  cases e with
  | main pending => exact statement_buttonEffect h
  | takeButtonEventSem | takeLbmMainLoopSem | timeout =>
      obtain ⟨-, hsome⟩ := Option.ite_none_right_eq_some.mp h
      cases hsome
      exact .looked rfl rfl
  | button now later =>
      cases h
      refine .pressed (fun hpress => ?_) rfl
      rw [userButtonCallback]
      split
      · rfl
      · exact hpress
  | wakeUp =>
      cases h
      exact .kept rfl rfl fun _ hlooks => hlooks
  | other e =>
      obtain ⟨app, -, rfl⟩ := Option.map_eq_some_iff.mp h
      exact .kept rfl rfl fun _ hlooks => hlooks

/-- A press that is not served yet wakes `main`, or it is about to look. -/
def Wakes (s : State Stmt σ) : Prop :=
  s.userButtonIsPress = true → s.buttonEventSem = true ∨ s.pc.looks = true

theorem wakes_step {e : Event E} (h : Wakes s) (hstep : step a s e = some t) :
    Wakes t := by
  intro hpress
  cases step_buttonEffect hstep with
  | kept press sem looks =>
      rw [press] at hpress
      rw [sem]
      exact (h hpress).imp_right (looks hpress)
  | cleared _ press =>
      rw [press] at hpress
      cases hpress
  | looked _ looks => exact Or.inr looks
  | pressed _ sem => exact Or.inl sem

/-- Only `main` ends a press, having found it. -/
theorem press_step {e : Event E} (h : s.userButtonIsPress = true)
    (hpc : s.pc ≠ .clearPress) (hstep : step a s e = some t) :
    t.userButtonIsPress = true := by
  cases step_buttonEffect hstep with
  | kept press _ _ => exact press.trans h
  | cleared pc _ => exact absurd pc hpc
  | looked press _ => exact press.trans h
  | pressed press _ => exact press h

/-- A sample that counts the presses. -/
def pressCounter : App Unit Nat Unit where
  uspMainThread := false
  onPress := ()
  statement := fun _ n => some ⟨n + 1, false, none⟩
  quiet := fun _ => true
  other := fun _ _ n => some n

def inTheEngines : State Unit Nat := ⟨.engines, false, 0, false, false, 0⟩

/-- A press inside the engines, served in the turn after the next wait. -/
def nextTurn : List (Event Unit) :=
  [.main true, .main false, .takeButtonEventSem] ++ List.replicate 5 (.main false)

end ButtonLoop
