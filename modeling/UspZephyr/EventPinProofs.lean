import UspZephyr.StepRunProofs

/-! # The LR11xx event pin

    The interrupt handler samples the event line and then arms the opposite
    edge, in two statements.  A rising edge between a low sample and the arming
    finds the falling edge armed and is not seen; the handler then waits for a
    rising edge that has already happened.

    `event_pin_hears` says that this is the only way to go deaf, and
    `missed_edge_deafens` that it is one. -/

namespace EventPin

open StepRun

/-- How the event callback is run:
    `CONFIG_LORA_BASICS_MODEM_DRIVERS_EVENT_TRIGGER_*`.  The own-thread variant
    gives a semaphore that the data structure does not have. -/
inductive TriggerMode where
  | globalThread
  | noThread
  deriving DecidableEq, Repr

/-- What `gpio_pin_interrupt_configure_dt` was last called with. -/
inductive Trigger where
  | edgeToActive
  | edgeToInactive
  | off
  deriving DecidableEq, Repr

/-- A change to `level` is an edge that the trigger asks for. -/
def Trigger.asksFor : Trigger → Bool → Bool
  | .edgeToActive, level => level
  | .edgeToInactive, level => !level
  | .off, _ => false

/-- The next statement of `lr11xx_board_event_callback`. -/
inductive Isr where
  | idle
  | sample
  | armInactive
  | notify
  /-- The event callback runs inside the handler. -/
  | inCallback
  | armActive
  deriving DecidableEq, Repr

/-- The event line and the code around it.  `pending` tells whether the work is
    queued. -/
structure Pin where
  level : Bool
  trigger : Trigger
  irqPending : Bool
  isr : Isr
  pending : Bool
  callbackRunning : Bool
  deriving DecidableEq, Repr

/-- The line goes to `level`. -/
def drive (level : Bool) (s : Pin) : Pin :=
  { s with
    level := level
    irqPending := s.irqPending || s.trigger.asksFor level }

/-- `lora_transceiver_board_enable_interrupt`. -/
def loraTransceiverBoardEnableInterrupt (s : Pin) : Pin :=
  { s with trigger := .edgeToActive }

/-- `k_work_submit` or the call of the callback. -/
def notifyCallback (mode : TriggerMode) (s : Pin) : Pin :=
  match mode with
  | .globalThread => { s with pending := true, isr := .idle }
  | .noThread => { s with callbackRunning := true, isr := .inCallback }

/-- The next statement of `lr11xx_board_event_callback`, for an interrupt of the
    event pin and an attached callback. -/
def isrStatement (mode : TriggerMode) (s : Pin) : Option Pin :=
  match s.isr with
  | .idle => none
  | .sample => some { s with isr := if s.level then .armInactive else .armActive }
  | .armInactive => some { s with trigger := .edgeToInactive, isr := .notify }
  | .notify => some (notifyCallback mode s)
  | .inCallback => none
  | .armActive => some { s with trigger := .edgeToActive, isr := .idle }

inductive PinEvent where
  /-- The radio raises the line. -/
  | raise
  /-- The event callback clears the radio's interrupts and the line falls. -/
  | clear
  /-- The pending interrupt is taken. -/
  | interrupt
  | isrStatement
  /-- The work queue starts the event callback. -/
  | take
  | callbackReturn
  deriving DecidableEq, Repr

def pinStep (mode : TriggerMode) (s : Pin) : PinEvent → Option Pin
  | .raise => if s.level then none else some (drive true s)
  | .clear =>
      if s.callbackRunning && s.level then some (drive false s) else none
  | .interrupt =>
      if s.irqPending = true ∧ s.isr = .idle then
        some { s with irqPending := false, isr := .sample }
      else none
  | .isrStatement => isrStatement mode s
  | .take =>
      if s.pending = true ∧ s.callbackRunning = false then
        some { s with pending := false, callbackRunning := true }
      else none
  | .callbackReturn =>
      if s.callbackRunning then
        some { s with
          callbackRunning := false
          isr := if s.isr = .inCallback then .idle else s.isr }
      else none

/-- Interrupts enabled with the line low. -/
def enabledLow : Pin :=
  loraTransceiverBoardEnableInterrupt ⟨false, .off, false, .idle, false, false⟩

/-- The line is high, nothing is on its way, and only a rising edge would be
    seen. -/
def Deaf (s : Pin) : Prop :=
  s.level = true ∧ s.irqPending = false ∧ s.isr = .idle ∧ s.pending = false
    ∧ s.callbackRunning = false ∧ s.trigger = .edgeToActive

instance (s : Pin) : Decidable (Deaf s) := inferInstanceAs (Decidable (_ ∧ _))

/-- After the handler has sampled the line low and before it has armed the
    rising edge, the radio raises the line only if an interrupt is pending
    anyway or the rising edge was armed all along. -/
def SparesRearming (s : Pin) (e : PinEvent) : Prop :=
  e = .raise → s.isr = .armActive →
    s.irqPending = true ∨ s.trigger = .edgeToActive

/-- What keeps the pin from going deaf. -/
structure Hears (s : Pin) : Prop where
  low : s.isr = .armActive → s.level = true → s.irqPending = true
  falling : s.isr = .notify ∨ s.isr = .inCallback → s.trigger = .edgeToInactive
  rising : s.trigger = .edgeToActive → s.level = true →
    s.irqPending = true ∨ s.isr = .sample ∨ s.isr = .armInactive

theorem hears_enabledLow : Hears enabledLow :=
  ⟨nofun, nofun, nofun⟩

/-- A rising edge is seen, or the falling edge is awaited. -/
theorem raise_hears {s : Pin} (hs : Hears s)
    (hok : s.isr = .armActive → s.irqPending = true ∨ s.trigger = .edgeToActive) :
    Hears (drive true s) := by
  have hseen : s.trigger = .edgeToActive →
      (s.irqPending || s.trigger.asksFor true) = true := by
    intro htrigger
    rw [htrigger]
    exact Bool.or_true _
  refine ⟨?_, hs.falling, fun htrigger _ => Or.inl (hseen htrigger)⟩
  intro hisr _
  rcases hok hisr with hirq | htrigger
  · show (s.irqPending || _) = true
    rw [hirq]
    rfl
  · exact hseen htrigger

theorem clear_hears {s : Pin} (hs : Hears s) : Hears (drive false s) :=
  ⟨nofun, hs.falling, nofun⟩

/-- The handler, one statement on. -/
theorem isrStatement_hears {mode : TriggerMode} {s t : Pin} (hs : Hears s)
    (h : isrStatement mode s = some t) : Hears t := by
  obtain ⟨level, trigger, irqPending, isr, pending, running⟩ := s
  cases isr with
  | idle | inCallback => cases h
  | sample =>
      -- a low sample leads to the arming with the line still low
      cases h
      cases level with
      | true => exact ⟨nofun, nofun, fun _ _ => Or.inr (Or.inr rfl)⟩
      | false => exact ⟨nofun, nofun, nofun⟩
  | armInactive =>
      cases h
      exact ⟨nofun, fun _ => rfl, nofun⟩
  | notify =>
      -- the falling edge was armed just before
      obtain rfl : trigger = .edgeToInactive := hs.falling (Or.inl rfl)
      cases h
      cases mode with
      | globalThread => exact ⟨nofun, nofun, nofun⟩
      | noThread => exact ⟨nofun, fun _ => rfl, nofun⟩
  | armActive =>
      -- the line is still low, or its rising edge was seen
      have hlow := hs.low rfl
      cases h
      exact ⟨nofun, nofun, fun _ hlevel => Or.inl (hlow hlevel)⟩

/-- Every step that spares the re-arming keeps the pin hearing. -/
theorem pinStep_hears {mode : TriggerMode} {s t : Pin} {e : PinEvent}
    (hok : SparesRearming s e) (hs : Hears s) (h : pinStep mode s e = some t) :
    Hears t := by
  cases e with
  | raise =>
      obtain ⟨_, hraised⟩ := Option.ite_none_left_eq_some.mp h
      cases hraised
      exact raise_hears hs (hok rfl)
  | clear =>
      obtain ⟨_, rfl⟩ := Option.ite_some_none_eq_some.mp h
      exact clear_hears hs
  | interrupt =>
      obtain ⟨_, rfl⟩ := Option.ite_some_none_eq_some.mp h
      exact ⟨nofun, nofun, fun _ _ => Or.inr (Or.inl rfl)⟩
  | isrStatement => exact isrStatement_hears hs h
  | take =>
      obtain ⟨_, rfl⟩ := Option.ite_some_none_eq_some.mp h
      exact ⟨hs.low, hs.falling, hs.rising⟩
  | callbackReturn =>
      obtain ⟨_, rfl⟩ := Option.ite_some_none_eq_some.mp h
      by_cases hin : s.isr = .inCallback
      · -- the callback ran inside the handler, which had armed the falling edge
        rw [if_pos hin]
        refine ⟨nofun, nofun, ?_⟩
        intro htrigger
        exact absurd (htrigger.symm.trans (hs.falling (Or.inr hin))) nofun
      · rw [if_neg hin]
        exact ⟨hs.low, hs.falling, hs.rising⟩

/-- **THE EVENT PIN NEVER GOES DEAF** in a run in which the radio never raises
    the line unseen between a low sample and the arming of the rising edge. -/
theorem event_pin_hears (mode : TriggerMode) (es : List PinEvent) (s : Pin)
    (hrun : run (pinStep mode) enabledLow es = some s)
    (hok : Meets (pinStep mode) SparesRearming enabledLow es) : ¬ Deaf s := by
  have hs := meets_invariant Hears
    (fun _ _ _ hok hs he => pinStep_hears hok hs he) hok hears_enabledLow hrun
  rintro ⟨hlevel, hirq, hisr, _, _, htrigger⟩
  rcases hs.rising htrigger hlevel with h | h | h
  · exact absurd (hirq.symm.trans h) nofun
  · exact absurd (hisr.symm.trans h) nofun
  · exact absurd (hisr.symm.trans h) nofun

/-- A callback that leaves the line high does not help. -/
theorem callback_deafens (mode : TriggerMode) (pending : Bool) :
    ∃ es t,
      run (pinStep mode) ⟨true, .edgeToActive, false, .idle, pending, false⟩ es
        = some t ∧ Deaf t := by
  cases pending with
  | false => exact ⟨[], _, rfl, by decide⟩
  | true => exact ⟨[.take, .callbackReturn], _, rfl, by decide⟩

/-- A rising edge that does not spare the re-arming can leave the pin deaf. -/
theorem missed_edge_deafens (mode : TriggerMode) {s : Pin}
    (hisr : s.isr = .armActive) (hlevel : s.level = false)
    (hirq : s.irqPending = false) (htrigger : s.trigger = .edgeToInactive) :
    ∃ es t, run (pinStep mode) s (.raise :: es) = some t ∧ Deaf t := by
  obtain ⟨level, trigger, irqPending, isr, pending, running⟩ := s
  cases hisr
  cases hlevel
  cases hirq
  cases htrigger
  obtain ⟨es, t, hrun, ht⟩ := callback_deafens mode pending
  cases running with
  | true => exact ⟨.isrStatement :: .callbackReturn :: es, t, hrun, ht⟩
  | false => exact ⟨.isrStatement :: es, t, hrun, ht⟩

/-- One radio interrupt, up to the low sample of the handler. -/
def oneInterrupt : List PinEvent :=
  [.raise, .interrupt, .isrStatement, .isrStatement, .isrStatement, .take,
    .clear, .interrupt, .isrStatement]

theorem event_pin_hears_oneInterrupt :
    ¬ Deaf ⟨false, .edgeToActive, false, .idle, false, true⟩ := by
  refine event_pin_hears .globalThread (oneInterrupt ++ [.isrStatement]) _ rfl ?_
  refine .cons rfl nofun (.cons rfl nofun (.cons rfl nofun ?_))
  refine .cons rfl nofun (.cons rfl nofun (.cons rfl nofun ?_))
  refine .cons rfl nofun (.cons rfl nofun (.cons rfl nofun ?_))
  exact .cons rfl nofun trivial

/-- A second radio interrupt right after the low sample makes the pin deaf. -/
theorem event_pin_deaf :
    ∃ s, run (pinStep .globalThread) enabledLow
        (oneInterrupt ++ [.raise, .isrStatement, .callbackReturn]) = some s
      ∧ Deaf s :=
  ⟨_, rfl, by decide⟩

end EventPin
