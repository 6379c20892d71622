import UspZephyr.ModemHalProofs

/-! # The modem HAL: interrupts and re-entrant callbacks

    `smtc_modem_hal_enable_modem_irq`, statement by statement, on a stack of the
    calls in progress.  A radio event or a timer expiry may come at any moment
    and puts its callback on top of whatever runs; callbacks may call every
    function of the HAL, so enabling calls nest.

    Enabling tests each pending flag once and never tests the mask again.
    `callbacks_unmasked` says what must not happen during the call for the mask
    to be respected all the same. -/

namespace ModemHalIrq

open StepRun ModemHal

variable {κ : Type}

/-- The statements of `smtc_modem_hal_enable_modem_irq`. -/
inductive EnablePc where
  | setEnabled
  | boardEnableInterrupt
  | testRadio
  | clearRadio
  | callRadio
  | testTimer
  | clearTimer
  | callTimer
  | ret
  deriving DecidableEq, Repr

/-- The two callbacks. -/
inductive Kind where
  | radio
  | timer
  deriving DecidableEq, Repr

/-- A call of `smtc_modem_hal_enable_modem_irq`: its program counter, whether a
    radio event waited when it lifted the mask, and how many radio callbacks it
    has called. -/
structure EnableCall where
  pc : EnablePc
  waiting : Bool
  replays : Nat
  deriving DecidableEq, Repr

/-- A call in progress. -/
inductive Frame where
  | enabling (c : EnableCall)
  /-- A callback, called by an interrupt (`direct`) or by an enabling call. -/
  | callback (k : Kind) (direct : Bool)
  deriving DecidableEq, Repr

/-- What happened, for the radio. -/
inductive IrqNote where
  | radioEvent
  | cleared
  | called (k : Kind)
  deriving DecidableEq, Repr

/-- A radio event was neither cleared nor followed by a radio callback. -/
def unserved : List IrqNote → Bool
  | [] => false
  | .radioEvent :: _ => true
  | .cleared :: _ => false
  | .called .radio :: _ => false
  | .called .timer :: notes => unserved notes

/-- The HAL, the calls in progress, innermost first, and what happened, newest
    first. -/
structure IrqRun (κ : Type) where
  hal : Hal κ
  frames : List Frame
  notes : List IrqNote

/-- The code that runs may call the HAL: it is a callback or the main
    program. -/
def clientRuns : List Frame → Bool
  | .enabling _ :: _ => false
  | _ => true

inductive IrqEvent (κ : Type) where
  | radioEvent
  | expire
  | disable
  | enable
  | clearPending
  | startTimer (call : κ)
  | stopTimer
  /-- The callback that runs returns. -/
  | ret
  /-- The enabling call that runs executes its next statement. -/
  | statement

def Invocation.kind : Invocation κ → Kind
  | .radio => .radio
  | .timer _ => .timer

/-- An interrupt handler ran: its callback, if it calls one, is on top. -/
def interrupted (s : IrqRun κ) (note : List IrqNote)
    (r : Hal κ × List (Invocation κ)) : IrqRun κ where
  hal := r.1
  frames := (r.2.map fun i => .callback (Invocation.kind i) true) ++ s.frames
  notes := (r.2.map fun i => .called (Invocation.kind i)) ++ (note ++ s.notes)

/-- The next statement of the enabling call `c` that runs over `fs`. -/
def enableStatement (s : IrqRun κ) (c : EnableCall) (fs : List Frame) :
    IrqRun κ :=
  match c.pc with
  | .setEnabled =>
      { s with
        hal := { s.hal with modemIrqEnabled := true }
        frames := .enabling
          { c with pc := .boardEnableInterrupt, waiting := unserved s.notes }
            :: fs }
  | .boardEnableInterrupt =>
      { s with frames := .enabling { c with pc := .testRadio } :: fs }
  | .testRadio =>
      let pc := if s.hal.radioIrqPendingWhileDisabled then .clearRadio
        else .testTimer
      { s with frames := .enabling { c with pc := pc } :: fs }
  | .clearRadio =>
      { s with
        hal := { s.hal with radioIrqPendingWhileDisabled := false }
        frames := .enabling { c with pc := .callRadio } :: fs }
  | .callRadio =>
      { s with
        frames := .callback .radio false
          :: .enabling { c with pc := .testTimer, replays := c.replays + 1 }
            :: fs
        notes := .called .radio :: s.notes }
  | .testTimer =>
      let pc := if s.hal.modemIrqPendingWhileDisabled then .clearTimer else .ret
      { s with frames := .enabling { c with pc := pc } :: fs }
  | .clearTimer =>
      { s with
        hal := { s.hal with modemIrqPendingWhileDisabled := false }
        frames := .enabling { c with pc := .callTimer } :: fs }
  | .callTimer =>
      { s with
        frames := .callback .timer false :: .enabling { c with pc := .ret } :: fs
        notes := .called .timer :: s.notes }
  | .ret => { s with frames := fs }

def irqStep (s : IrqRun κ) : IrqEvent κ → Option (IrqRun κ)
  | .radioEvent =>
      some (interrupted s [.radioEvent] (prvTransceiverEventCb s.hal))
  | .expire =>
      if s.hal.timerRunning then
        some (interrupted s []
          (prvSmtcModemHalTimerHandler { s.hal with timerRunning := false }))
      else none
  | .disable =>
      if clientRuns s.frames then
        some { s with hal := smtcModemHalDisableModemIrq s.hal }
      else none
  | .enable =>
      if clientRuns s.frames then
        some { s with frames := .enabling ⟨.setEnabled, false, 0⟩ :: s.frames }
      else none
  | .clearPending =>
      if clientRuns s.frames then
        some { s with
          hal := smtcModemHalRadioIrqClearPending s.hal
          notes := .cleared :: s.notes }
      else none
  | .startTimer call =>
      if clientRuns s.frames then
        some { s with hal := smtcModemHalStartTimer call s.hal }
      else none
  | .stopTimer =>
      if clientRuns s.frames then
        some { s with hal := smtcModemHalStopTimer s.hal }
      else none
  | .ret =>
      match s.frames with
      | .callback _ _ :: fs => some { s with frames := fs }
      | _ => none
  | .statement =>
      match s.frames with
      | .enabling c :: fs => some (enableStatement s c fs)
      | _ => none

def IrqRun.init (κ : Type) : IrqRun κ := ⟨Hal.init κ, [], []⟩

/-- A callback returns to what lies below it. -/
theorem ret_step {s t : IrqRun κ} (h : irqStep s .ret = some t) :
    ∃ k d fs, s.frames = .callback k d :: fs ∧ t = { s with frames := fs } := by
  rw [irqStep] at h
  split at h
  · rename_i k d fs hframes
    exact ⟨k, d, fs, hframes, (Option.some.inj h).symm⟩
  · cases h

/-- A statement is one of the enabling call on top. -/
theorem statement_step {s t : IrqRun κ} (h : irqStep s .statement = some t) :
    ∃ c fs, s.frames = .enabling c :: fs ∧ t = enableStatement s c fs := by
  rw [irqStep] at h
  split at h
  · rename_i c fs hframes
    exact ⟨c, fs, hframes, (Option.some.inj h).symm⟩
  · cases h

/-- Undisturbed, and with callbacks that return at once, the statements compute
    `smtcModemHalEnableModemIrq`. -/
theorem enable_statements (s : IrqRun κ) (h : clientRuns s.frames = true) :
    ∃ es notes, run irqStep s (.enable :: es)
      = some ⟨(smtcModemHalEnableModemIrq s.hal).1, s.frames, notes⟩ := by
  have henable : irqStep s .enable = some
      { s with frames := .enabling ⟨.setEnabled, false, 0⟩ :: s.frames } :=
    if_pos h
  suffices hrest : ∃ es notes, run irqStep
      { s with frames := .enabling ⟨.setEnabled, false, 0⟩ :: s.frames } es
      = some ⟨(smtcModemHalEnableModemIrq s.hal).1, s.frames, notes⟩ by
    obtain ⟨es, notes, hes⟩ := hrest
    refine ⟨es, notes, ?_⟩
    show (irqStep s .enable).bind _ = _
    rw [henable]
    exact hes
  obtain ⟨⟨en, timer, radio, call, running⟩, frames, notes⟩ := s
  cases radio with
  | true =>
      cases timer with
      | true =>
          exact ⟨[.statement, .statement, .statement, .statement, .statement,
            .ret, .statement, .statement, .statement, .ret, .statement],
            _, rfl⟩
      | false =>
          exact ⟨[.statement, .statement, .statement, .statement, .statement,
            .ret, .statement, .statement], _, rfl⟩
  | false =>
      cases timer with
      | true =>
          exact ⟨[.statement, .statement, .statement, .statement, .statement,
            .statement, .ret, .statement], _, rfl⟩
      | false =>
          exact ⟨[.statement, .statement, .statement, .statement, .statement],
            _, rfl⟩

/-! ## Callbacks and the mask -/

/-- The event calls a callback. -/
def Calls (s : IrqRun κ) (e : IrqEvent κ) : Prop :=
  ∃ t k d fs, irqStep s e = some t ∧ t.frames = .callback k d :: fs
    ∧ fs.length = s.frames.length

/-- The enabling call has lifted the mask and not yet tested the flag of the
    radio. -/
def EnablePc.radioAhead : EnablePc → Bool
  | .boardEnableInterrupt | .testRadio => true
  | _ => false

/-- It has lifted the mask and not yet tested the flag of the timer. -/
def EnablePc.timerAhead : EnablePc → Bool
  | .boardEnableInterrupt | .testRadio | .clearRadio | .callRadio
  | .testTimer => true
  | _ => false

/-- It has tested a flag and will call the callback. -/
def EnablePc.committed : EnablePc → Bool
  | .clearRadio | .callRadio | .clearTimer | .callTimer => true
  | _ => false

/-- It still has a callback to call, as the flags are. -/
def callsLeft (h : Hal κ) (pc : EnablePc) : Bool :=
  pc.committed || (pc.radioAhead && h.radioIrqPendingWhileDisabled)
    || (pc.timerAhead && h.modemIrqPendingWhileDisabled)

/-- The rule of conduct.  No callback returns with the interrupts masked to an
    enabling call that has a callback left to call; no event comes with the
    interrupts masked while an enabling call runs that will still test its
    flag. -/
def Undisturbed (s : IrqRun κ) : IrqEvent κ → Prop
  | .ret => ∀ k d c fs, s.frames = .callback k d :: .enabling c :: fs →
      callsLeft s.hal c.pc = true → s.hal.modemIrqEnabled = true
  | .radioEvent => ∀ c fs, s.frames = .enabling c :: fs →
      c.pc.radioAhead = true → s.hal.modemIrqEnabled = true
  | .expire => ∀ c fs, s.frames = .enabling c :: fs →
      c.pc.timerAhead = true → s.hal.modemIrqEnabled = true
  | _ => True

/-- Enabling calls sit on client code. -/
def Nested : List Frame → Prop
  | [] => True
  | .enabling _ :: fs => clientRuns fs = true ∧ Nested fs
  | .callback _ _ :: fs => Nested fs

/-- An enabling call that runs with callbacks left to call runs unmasked. -/
structure MaskLifted (s : IrqRun κ) : Prop where
  nested : Nested s.frames
  lifted : ∀ c fs, s.frames = .enabling c :: fs →
    callsLeft s.hal c.pc = true → s.hal.modemIrqEnabled = true

theorem maskLifted_init (κ : Type) : MaskLifted (IrqRun.init κ) :=
  ⟨trivial, nofun⟩

/-- Where client code runs nothing is asked of the mask. -/
theorem MaskLifted.of_client {s : IrqRun κ} (hn : Nested s.frames)
    (hc : clientRuns s.frames = true) : MaskLifted s := by
  refine ⟨hn, ?_⟩
  intro c fs hfs
  rw [hfs] at hc
  cases hc

private theorem callsLeft_testRadio (h : Hal κ) :
    callsLeft h .testRadio
      = (h.radioIrqPendingWhileDisabled || h.modemIrqPendingWhileDisabled) := by
  simp [callsLeft, EnablePc.committed, EnablePc.radioAhead, EnablePc.timerAhead]

private theorem callsLeft_testTimer (h : Hal κ) :
    callsLeft h .testTimer = h.modemIrqPendingWhileDisabled := by
  simp [callsLeft, EnablePc.committed, EnablePc.radioAhead, EnablePc.timerAhead]

/-- The enabling call, one statement on. -/
theorem enableStatement_maskLifted {s : IrqRun κ} {c : EnableCall}
    {fs : List Frame} (hfs : s.frames = .enabling c :: fs)
    (hs : MaskLifted s) : MaskLifted (enableStatement s c fs) := by
  have hlift := hs.lifted c fs hfs
  have hn := hs.nested
  rw [hfs] at hn
  obtain ⟨pc, waiting, replays⟩ := c
  cases pc with
  | setEnabled => exact ⟨hn, fun _ _ _ _ => rfl⟩
  | boardEnableInterrupt =>
      refine ⟨hn, ?_⟩
      intro c' fs' hfs' hleft
      cases hfs'
      exact hlift hleft
  | testRadio =>
      refine ⟨hn, ?_⟩
      intro c' fs' hfs' hleft
      cases hfs'
      refine hlift ?_
      -- the test takes the callback from "ahead" to "committed", or drops it
      rw [callsLeft_testRadio]
      cases hr : s.hal.radioIrqPendingWhileDisabled with
      | true => rfl
      | false =>
          dsimp only at hleft
          rw [hr, if_neg nofun] at hleft
          exact (callsLeft_testTimer s.hal).symm.trans hleft
  | clearRadio => exact ⟨hn, fun _ _ _ _ => hlift rfl⟩
  | callRadio => exact .of_client hn rfl
  | testTimer =>
      refine ⟨hn, ?_⟩
      intro c' fs' hfs' hleft
      cases hfs'
      refine hlift ?_
      rw [callsLeft_testTimer]
      cases hp : s.hal.modemIrqPendingWhileDisabled with
      | true => rfl
      | false =>
          dsimp only at hleft
          rw [hp, if_neg nofun] at hleft
          cases hleft
  | clearTimer => exact ⟨hn, fun _ _ _ _ => hlift rfl⟩
  | callTimer => exact .of_client hn rfl
  | ret => exact .of_client hn.2 hn.1

/-- An interrupt whose callback is called leaves client code running; one that
    is held back changes only its flag. -/
theorem interrupted_maskLifted {s : IrqRun κ} {note : List IrqNote}
    {r : Hal κ × List (Invocation κ)} (hs : MaskLifted s)
    (hheld : r.2 = [] → r.1.modemIrqEnabled = s.hal.modemIrqEnabled
      ∧ ∀ c fs, s.frames = .enabling c :: fs → callsLeft r.1 c.pc = true →
        s.hal.modemIrqEnabled = true) :
    MaskLifted (interrupted s note r) := by
  obtain ⟨h, is⟩ := r
  cases is with
  | nil =>
      obtain ⟨hen, hleft⟩ := hheld rfl
      exact ⟨hs.nested, fun c fs hfs hc => hen.trans (hleft c fs hfs hc)⟩
  | cons i is =>
      -- the callback on top is client code
      refine .of_client ?_ rfl
      show Nested ((is.map fun i => .callback (Invocation.kind i) true)
        ++ s.frames)
      induction is with
      | nil => exact hs.nested
      | cons i is ih => exact ih nofun

/-- A radio event held back gives a callback to call only to an enabling call
    that will still test for it. -/
theorem callsLeft_radio {h : Hal κ} {pc : EnablePc}
    (hleft : callsLeft { h with radioIrqPendingWhileDisabled := true } pc
      = true) : pc.radioAhead = true ∨ callsLeft h pc = true := by
  cases hpc : pc.radioAhead with
  | true => exact Or.inl rfl
  | false =>
      right
      simpa [callsLeft, hpc] using hleft

/-- The same for the timer. -/
theorem callsLeft_timer {h : Hal κ} {pc : EnablePc} {running : Bool}
    (hleft : callsLeft { h with
      modemIrqPendingWhileDisabled := true, timerRunning := running } pc
      = true) : pc.timerAhead = true ∨ callsLeft h pc = true := by
  cases hpc : pc.timerAhead with
  | true => exact Or.inl rfl
  | false =>
      right
      simpa [callsLeft, hpc] using hleft

/-- Undisturbed steps keep the mask lifted. -/
theorem irqStep_maskLifted {s t : IrqRun κ} {e : IrqEvent κ}
    (hok : Undisturbed s e) (hs : MaskLifted s) (h : irqStep s e = some t) :
    MaskLifted t := by
  cases e with
  | radioEvent =>
      cases h
      refine interrupted_maskLifted hs ?_
      rw [prvTransceiverEventCb]
      split
      · exact nofun
      · refine fun _ => ⟨rfl, ?_⟩
        intro c fs hfs hleft
        rcases callsLeft_radio hleft with hahead | hbefore
        · exact hok c fs hfs hahead
        · exact hs.lifted c fs hfs hbefore
  | expire =>
      obtain ⟨_, rfl⟩ := Option.ite_some_none_eq_some.mp h
      refine interrupted_maskLifted hs ?_
      rw [prvSmtcModemHalTimerHandler]
      split
      · exact nofun
      · refine fun _ => ⟨rfl, ?_⟩
        intro c fs hfs hleft
        rcases callsLeft_timer hleft with hahead | hbefore
        · exact hok c fs hfs hahead
        · exact hs.lifted c fs hfs hbefore
  | disable | clearPending | startTimer | stopTimer =>
      obtain ⟨hclient, rfl⟩ := Option.ite_some_none_eq_some.mp h
      exact .of_client hs.nested hclient
  | enable =>
      obtain ⟨hclient, rfl⟩ := Option.ite_some_none_eq_some.mp h
      refine ⟨⟨hclient, hs.nested⟩, ?_⟩
      intro c fs hfs hleft
      cases hfs
      cases hleft
  | ret =>
      obtain ⟨k, d, fs, hframes, rfl⟩ := ret_step h
      -- the enabling call below, if any, goes on: the rule of conduct
      have hn := hs.nested
      rw [hframes] at hn
      refine ⟨hn, ?_⟩
      intro c fs' hfs' hleft
      rw [show fs = .enabling c :: fs' from hfs'] at hframes
      exact hok k d c fs' hframes hleft
  | statement =>
      obtain ⟨c, fs, hframes, rfl⟩ := statement_step h
      exact enableStatement_maskLifted hframes hs

/-- The enabling call calls a callback only when it is committed to. -/
theorem enableStatement_calls {s : IrqRun κ} {c : EnableCall}
    {fs fs' : List Frame} {k : Kind} {d : Bool}
    (htop : (enableStatement s c fs).frames = .callback k d :: fs')
    (hlen : fs'.length = fs.length + 1) : c.pc.committed = true := by
  obtain ⟨pc, waiting, replays⟩ := c
  cases pc with
  | setEnabled | boardEnableInterrupt | testRadio | testTimer => cases htop
  | clearRadio | callRadio | clearTimer | callTimer => rfl
  | ret =>
      have hshort := congrArg List.length htop
      change fs.length = fs'.length + 1 at hshort
      omega

/-- A callback is called by an interrupt that found the mask lifted, or by an
    enabling call that is committed to it. -/
theorem calls_unmasked {s : IrqRun κ} {e : IrqEvent κ} (hs : MaskLifted s)
    (h : Calls s e) : s.hal.modemIrqEnabled = true := by
  obtain ⟨t, k, d, fs, hstep, htop, hlen⟩ := h
  -- most events put nothing on top
  have hsame : t.frames ≠ s.frames := by
    intro heq
    have := congrArg List.length (heq.symm.trans htop)
    rw [List.length_cons] at this
    omega
  cases e with
  | radioEvent =>
      cases hstep
      cases hen : s.hal.modemIrqEnabled with
      | true => rfl
      | false =>
          refine absurd ?_ hsame
          rw [prvTransceiverEventCb, hen]
          rfl
  | expire =>
      obtain ⟨_, rfl⟩ := Option.ite_some_none_eq_some.mp hstep
      cases hen : s.hal.modemIrqEnabled with
      | true => rfl
      | false =>
          refine absurd ?_ hsame
          rw [prvSmtcModemHalTimerHandler, hen]
          rfl
  | disable | clearPending | startTimer | stopTimer =>
      obtain ⟨_, rfl⟩ := Option.ite_some_none_eq_some.mp hstep
      exact absurd rfl hsame
  | enable =>
      obtain ⟨_, rfl⟩ := Option.ite_some_none_eq_some.mp hstep
      cases htop
  | ret =>
      obtain ⟨k', d', fs', hframes, rfl⟩ := ret_step hstep
      -- one call less in progress
      rw [hframes, List.length_cons] at hlen
      have := congrArg List.length htop
      rw [List.length_cons] at this
      dsimp only at this
      omega
  | statement =>
      obtain ⟨c, fs', hframes, rfl⟩ := statement_step hstep
      rw [hframes] at hlen
      refine hs.lifted c fs' hframes ?_
      rw [callsLeft, enableStatement_calls htop hlen]
      rfl

/-- **NO CALLBACK IS CALLED WHILE MASKED**, in every run that is undisturbed. -/
theorem callbacks_unmasked (es : List (IrqEvent κ))
    (h : Meets irqStep Undisturbed (IrqRun.init κ) es) :
    Meets irqStep (fun s e => Calls s e → s.hal.modemIrqEnabled = true)
      (IrqRun.init κ) es :=
  h.weaken MaskLifted (fun _ _ _ hok hs he => irqStep_maskLifted hok hs he)
    (fun s e _ hs (hc : Calls s e) => calls_unmasked hs hc) (maskLifted_init κ)

/-- A radio event is held back, and its callback leaves the mask alone. -/
def heldBackRadio : List (IrqEvent Nat) :=
  [.disable, .radioEvent, .enable, .statement, .statement, .statement,
    .statement, .statement, .ret]

theorem callbacks_unmasked_heldBackRadio :
    Meets irqStep (fun s e => Calls s e → s.hal.modemIrqEnabled = true)
      (IrqRun.init Nat) heldBackRadio := by
  refine callbacks_unmasked heldBackRadio ?_
  refine .cons rfl trivial (.cons rfl nofun (.cons rfl trivial ?_))
  refine .cons rfl trivial (.cons rfl trivial (.cons rfl trivial ?_))
  refine .cons rfl trivial (.cons rfl trivial (.cons rfl ?_ trivial))
  exact fun _ _ _ _ _ _ => rfl

/-- A radio event and a timer expiry are held back; the radio callback that
    enabling calls masks the interrupts again. -/
def maskingCallback : List (IrqEvent Nat) :=
  [.disable, .startTimer 7, .radioEvent, .expire, .enable, .statement,
    .statement, .statement, .statement, .statement, .disable, .ret, .statement,
    .statement]

/-- The timer callback is then called while masked. -/
theorem masked_timer_callback :
    ∃ s, run irqStep (IrqRun.init Nat) maskingCallback = some s
      ∧ Calls s .statement ∧ s.hal.modemIrqEnabled = false :=
  ⟨_, rfl, ⟨_, .timer, false, _, rfl, rfl, rfl⟩, rfl⟩

end ModemHalIrq
