import UspZephyr.StepRunProofs

/-! # The modem HAL: masking interrupts, and the timer

    While the modem has its interrupts masked, a radio event or a timer expiry
    only sets a pending flag; `smtc_modem_hal_enable_modem_irq` lifts the mask
    and calls the callbacks that were held back.

    The timer's pending flag says that SOME timer expired.  It is not cleared
    when that timer is stopped or replaced, so the callback that enabling calls
    is right exactly when nothing was stopped or started since the last expiry
    (`timer_invocations_right_iff`). -/

namespace ModemHal

open StepRun

variable {κ : Type}

/-- The static state of `smtc_modem_hal.c` for the mask, the pending flags and
    the timer, and the kernel's timer.  `timerCall` is the callback with its
    context. -/
structure Hal (κ : Type) where
  modemIrqEnabled : Bool
  modemIrqPendingWhileDisabled : Bool
  radioIrqPendingWhileDisabled : Bool
  timerCall : Option κ
  timerRunning : Bool

/-- A callback that is called. -/
inductive Invocation (κ : Type) where
  | radio
  | timer (call : Option κ)
  deriving DecidableEq, Repr

/-- `prv_smtc_modem_hal_timer_handler`, and what it calls. -/
def prvSmtcModemHalTimerHandler (h : Hal κ) : Hal κ × List (Invocation κ) :=
  if h.modemIrqEnabled then (h, [.timer h.timerCall])
  else ({ h with modemIrqPendingWhileDisabled := true }, [])

/-- `prv_transceiver_event_cb`. -/
def prvTransceiverEventCb (h : Hal κ) : Hal κ × List (Invocation κ) :=
  if h.modemIrqEnabled then (h, [.radio])
  else ({ h with radioIrqPendingWhileDisabled := true }, [])

/-- `smtc_modem_hal_start_timer`; when the timer expires is not modelled. -/
def smtcModemHalStartTimer (call : κ) (h : Hal κ) : Hal κ :=
  { h with timerCall := some call, timerRunning := true }

/-- `smtc_modem_hal_stop_timer`. -/
def smtcModemHalStopTimer (h : Hal κ) : Hal κ := { h with timerRunning := false }

/-- `smtc_modem_hal_disable_modem_irq`. -/
def smtcModemHalDisableModemIrq (h : Hal κ) : Hal κ :=
  { h with modemIrqEnabled := false }

/-- `smtc_modem_hal_radio_irq_clear_pending`. -/
def smtcModemHalRadioIrqClearPending (h : Hal κ) : Hal κ :=
  { h with radioIrqPendingWhileDisabled := false }

/-- The radio callback held back, called. -/
def replayRadio (h : Hal κ) : Hal κ × List (Invocation κ) :=
  if h.radioIrqPendingWhileDisabled then
    ({ h with radioIrqPendingWhileDisabled := false }, [.radio])
  else (h, [])

/-- The timer callback held back, called. -/
def replayTimer (h : Hal κ) : Hal κ × List (Invocation κ) :=
  if h.modemIrqPendingWhileDisabled then
    ({ h with modemIrqPendingWhileDisabled := false }, [.timer h.timerCall])
  else (h, [])

/-- `smtc_modem_hal_enable_modem_irq`, for callbacks that leave the HAL
    alone. -/
def smtcModemHalEnableModemIrq (h : Hal κ) : Hal κ × List (Invocation κ) :=
  let r := replayRadio { h with modemIrqEnabled := true }
  let t := replayTimer r.1
  (t.1, r.2 ++ t.2)

/-- The static initial values. -/
def Hal.init (κ : Type) : Hal κ where
  modemIrqEnabled := true
  modemIrqPendingWhileDisabled := false
  radioIrqPendingWhileDisabled := false
  timerCall := none
  timerRunning := false

/-! ## Runs of the timer -/

/-- What happens to the timer. -/
inductive TimerNote (κ : Type) where
  | started (call : κ)
  | stopped
  | expired
  | invoked (call : Option κ)
  deriving DecidableEq, Repr

/-- The timer calls among the invocations. -/
def timerNotes : List (Invocation κ) → List (TimerNote κ)
  | [] => []
  | .radio :: is => timerNotes is
  | .timer call :: is => .invoked call :: timerNotes is

/-- The HAL and what happened to the timer, the newest first. -/
structure TimerRun (κ : Type) where
  hal : Hal κ
  notes : List (TimerNote κ)

inductive TimerEvent (κ : Type) where
  | start (call : κ)
  | stop
  | disable
  | enable
  | expire

def timerStep (s : TimerRun κ) : TimerEvent κ → Option (TimerRun κ)
  | .start call =>
      some ⟨smtcModemHalStartTimer call s.hal, .started call :: s.notes⟩
  | .stop => some ⟨smtcModemHalStopTimer s.hal, .stopped :: s.notes⟩
  | .disable => some ⟨smtcModemHalDisableModemIrq s.hal, s.notes⟩
  | .enable =>
      let r := smtcModemHalEnableModemIrq s.hal
      some ⟨r.1, timerNotes r.2 ++ s.notes⟩
  | .expire =>
      -- the kernel runs the handler of a one-shot timer once
      if s.hal.timerRunning then
        let r := prvSmtcModemHalTimerHandler { s.hal with timerRunning := false }
        some ⟨r.1, timerNotes r.2 ++ .expired :: s.notes⟩
      else none

def TimerRun.init (κ : Type) : TimerRun κ := ⟨Hal.init κ, []⟩

/-- A call is justified by what happened before it: the last timer started was
    started with this call, it expired, and it was neither stopped nor called
    since. -/
def Justified (call : Option κ) (notes : List (TimerNote κ)) : Prop :=
  ∃ c mid pre, call = some c ∧ notes = mid ++ .started c :: pre
    ∧ .expired ∈ mid
    ∧ ∀ n ∈ mid, n ≠ .stopped ∧ (∀ d, n ≠ .started d) ∧ ∀ d, n ≠ .invoked d

/-- Every timer call so far was justified. -/
def InvocationsRight : List (TimerNote κ) → Prop
  | [] => True
  | .invoked call :: notes => Justified call notes ∧ InvocationsRight notes
  | _ :: notes => InvocationsRight notes

/-- The last start, stop or expiry. -/
def lastOrder : List (TimerNote κ) → Option (TimerNote κ)
  | [] => none
  | .invoked _ :: notes => lastOrder notes
  | n :: _ => some n

/-- Interrupts are enabled with a timer call held back only when no timer was
    stopped or started since the last expiry. -/
def FreshExpiry (s : TimerRun κ) : TimerEvent κ → Prop
  | .enable => s.hal.modemIrqPendingWhileDisabled = true →
      lastOrder s.notes = some .expired
  | _ => True

/-- A justified call comes after an expiry. -/
theorem Justified.lastOrder_eq {call : Option κ} {notes : List (TimerNote κ)}
    (h : Justified call notes) : lastOrder notes = some .expired := by
  obtain ⟨c, mid, pre, _, hnotes, hexp, hmid⟩ := h
  cases mid with
  | nil => cases hexp
  | cons n mid =>
      have hn := hmid n List.mem_cons_self
      rw [hnotes]
      cases n with
      | started d => exact absurd rfl (hn.2.1 d)
      | stopped => exact absurd rfl hn.1
      | expired => rfl
      | invoked d => exact absurd rfl (hn.2.2 d)

/-- Expired right after it was started. -/
theorem justified_expired (c : κ) (pre : List (TimerNote κ)) :
    Justified (some c) (.expired :: .started c :: pre) := by
  refine ⟨c, [.expired], pre, rfl, rfl, List.mem_cons_self, ?_⟩
  intro n hn
  rw [List.mem_singleton.mp hn]
  exact ⟨nofun, nofun, nofun⟩

/-- How the HAL remembers the timer while every call was justified. -/
structure Tracks (s : TimerRun κ) : Prop where
  running : s.hal.timerRunning = true →
    ∃ c pre, s.notes = .started c :: pre ∧ s.hal.timerCall = some c
  masked : s.hal.modemIrqPendingWhileDisabled = true →
    s.hal.modemIrqEnabled = false
  pending : s.hal.modemIrqPendingWhileDisabled = true →
    (∃ c pre, s.notes = .expired :: .started c :: pre
      ∧ s.hal.timerCall = some c)
    ∨ lastOrder s.notes ≠ some .expired

theorem tracks_init (κ : Type) : Tracks (TimerRun.init κ) :=
  ⟨nofun, nofun, nofun⟩

/-- Enabling clears both flags and lifts the mask. -/
theorem enable_hal (h : Hal κ) :
    (smtcModemHalEnableModemIrq h).1
      = { h with
          modemIrqEnabled := true
          modemIrqPendingWhileDisabled := false
          radioIrqPendingWhileDisabled := false } := by
  obtain ⟨en, timer, radio, call, running⟩ := h
  cases timer with
  | true => cases radio with
    | true => rfl
    | false => rfl
  | false => cases radio with
    | true => rfl
    | false => rfl

/-- It calls the timer callback when the flag was set. -/
theorem enable_timerNotes (h : Hal κ) :
    timerNotes (smtcModemHalEnableModemIrq h).2
      = if h.modemIrqPendingWhileDisabled then [.invoked h.timerCall]
        else [] := by
  obtain ⟨en, timer, radio, call, running⟩ := h
  cases timer with
  | true => cases radio with
    | true => rfl
    | false => rfl
  | false => cases radio with
    | true => rfl
    | false => rfl

/-- Every event but enabling with a stale flag keeps track of the timer, and
    only calls what it may. -/
theorem tracks_step {s t : TimerRun κ} {e : TimerEvent κ} (hs : Tracks s)
    (hok : FreshExpiry s e) (h : timerStep s e = some t) :
    Tracks t ∧ (InvocationsRight s.notes → InvocationsRight t.notes) := by
  cases e with
  | start call =>
      cases h
      exact ⟨⟨fun _ => ⟨call, s.notes, rfl, rfl⟩, hs.masked,
        fun _ => Or.inr nofun⟩, id⟩
  | stop =>
      cases h
      exact ⟨⟨nofun, hs.masked, fun _ => Or.inr nofun⟩, id⟩
  | disable =>
      cases h
      exact ⟨⟨hs.running, fun _ => rfl, hs.pending⟩, id⟩
  | enable =>
      cases h
      dsimp only
      rw [enable_hal, enable_timerNotes]
      cases hp : s.hal.modemIrqPendingWhileDisabled with
      | false =>
          rw [if_neg nofun]
          exact ⟨⟨hs.running, nofun, nofun⟩, id⟩
      | true =>
          rw [if_pos rfl]
          -- the flag is that of the current timer, or it is stale
          rcases hs.pending hp with ⟨c, pre, hnotes, hcall⟩ | hstale
          · refine ⟨⟨?_, nofun, nofun⟩, ?_⟩
            · -- a timer that expired does not run
              intro hr
              obtain ⟨d, pre', hnotes', _⟩ := hs.running hr
              exact absurd (hnotes.symm.trans hnotes') nofun
            · intro hright
              refine ⟨?_, hright⟩
              rw [hcall, hnotes]
              exact justified_expired c pre
          · exact absurd (hok hp) hstale
  | expire =>
      obtain ⟨hrun, rfl⟩ := Option.ite_some_none_eq_some.mp h
      obtain ⟨c, pre, hnotes, hcall⟩ := hs.running hrun
      cases hen : s.hal.modemIrqEnabled with
      | true =>
          -- called at once; nothing is held back while unmasked
          have hnone : s.hal.modemIrqPendingWhileDisabled = true → False := by
            intro hp
            exact absurd (hen.symm.trans (hs.masked hp)) nofun
          dsimp only [prvSmtcModemHalTimerHandler]
          rw [hen, if_pos rfl]
          refine ⟨⟨nofun, fun hp => (hnone hp).elim,
            fun hp => (hnone hp).elim⟩, ?_⟩
          intro hright
          refine ⟨?_, hright⟩
          rw [hcall, hnotes]
          exact justified_expired c pre
      | false =>
          -- held back
          dsimp only [prvSmtcModemHalTimerHandler]
          rw [hen, if_neg nofun]
          refine ⟨⟨nofun, fun _ => rfl, ?_⟩, id⟩
          intro _
          exact Or.inl ⟨c, pre, congrArg _ hnotes, hcall⟩

/-- Enabling with a stale flag calls what it may not. -/
theorem stale_step {s t : TimerRun κ} {e : TimerEvent κ}
    (hok : ¬ FreshExpiry s e) (h : timerStep s e = some t) :
    ¬ InvocationsRight t.notes := by
  intro hright
  refine hok ?_
  cases e with
  | start | stop | disable | expire => trivial
  | enable =>
      intro hp
      cases h
      dsimp only at hright
      rw [enable_timerNotes, if_pos hp] at hright
      exact hright.1.lastOrder_eq

theorem invocationsRight_of_append :
    ∀ (ns notes : List (TimerNote κ)),
      InvocationsRight (ns ++ notes) → InvocationsRight notes := by
  intro ns notes
  induction ns with
  | nil => exact id
  | cons n ns ih =>
      intro h
      cases n with
      | invoked call => exact ih h.2
      | started | stopped | expired => exact ih h

/-- Steps add to what happened. -/
theorem timerStep_notes {s t : TimerRun κ} {e : TimerEvent κ}
    (h : timerStep s e = some t) : ∃ ns, t.notes = ns ++ s.notes := by
  cases e with
  | start call =>
      cases h
      exact ⟨[.started call], rfl⟩
  | stop =>
      cases h
      exact ⟨[.stopped], rfl⟩
  | disable =>
      cases h
      exact ⟨[], rfl⟩
  | enable =>
      cases h
      exact ⟨_, rfl⟩
  | expire =>
      obtain ⟨_, rfl⟩ := Option.ite_some_none_eq_some.mp h
      exact ⟨timerNotes _ ++ [.expired], List.append_cons _ _ _⟩

/-- **TIMER CALLS ARE RIGHT EXACTLY WHEN INTERRUPTS ARE NEVER ENABLED WITH A
    STALE EXPIRY HELD BACK.** -/
theorem timer_invocations_right_iff (es : List (TimerEvent κ))
    (s : TimerRun κ) (h : run timerStep (TimerRun.init κ) es = some s) :
    InvocationsRight s.notes
      ↔ Meets timerStep FreshExpiry (TimerRun.init κ) es := by
  suffices hboth : (InvocationsRight s.notes
      ↔ Meets timerStep FreshExpiry (TimerRun.init κ) es)
      ∧ (InvocationsRight s.notes → Tracks s) from hboth.1
  refine run_history (fun es s => (InvocationsRight s.notes
      ↔ Meets timerStep FreshExpiry (TimerRun.init κ) es)
      ∧ (InvocationsRight s.notes → Tracks s)) ?_ ?_ h
  · exact ⟨Iff.rfl, fun _ => tracks_init κ⟩
  · rintro es s e t hrun ⟨hiff, htracks⟩ he
    -- what was wrong before stays wrong, and a stale step makes it so
    have hback : InvocationsRight t.notes → InvocationsRight s.notes := by
      obtain ⟨ns, hns⟩ := timerStep_notes he
      rw [hns]
      exact invocationsRight_of_append ns s.notes
    have hfresh : InvocationsRight t.notes → FreshExpiry s e := by
      intro hright
      exact Classical.byContradiction fun hok => stale_step hok he hright
    constructor
    · rw [meets_concat hrun, ← hiff]
      constructor
      · intro hright
        exact ⟨hback hright, hfresh hright⟩
      · rintro ⟨hright, hok⟩
        exact (tracks_step (htracks hright) hok he).2 hright
    · intro hright
      exact (tracks_step (htracks (hback hright)) (hfresh hright) he).1

/-- A timer that expires while masked and is called when enabled. -/
def heldBackTimer : List (TimerEvent Nat) :=
  [.disable, .start 7, .expire, .enable]

theorem timer_invocations_right_heldBackTimer :
    InvocationsRight [.invoked (some 7), .expired, .started 7]
      ↔ Meets timerStep FreshExpiry (TimerRun.init Nat) heldBackTimer :=
  timer_invocations_right_iff heldBackTimer
    ⟨⟨true, false, false, some 7, false⟩,
      [.invoked (some 7), .expired, .started 7]⟩ rfl

/-- A timer that expired while masked is called although it was stopped. -/
theorem stopped_timer_called :
    ∃ s, run timerStep (TimerRun.init Nat)
        [.disable, .start 7, .expire, .stop, .enable] = some s
      ∧ s.notes = [.invoked (some 7), .stopped, .expired, .started 7]
      ∧ ¬ InvocationsRight s.notes := by
  refine ⟨_, rfl, rfl, ?_⟩
  intro hright
  exact absurd hright.1.lastOrder_eq (by decide)

end ModemHal
