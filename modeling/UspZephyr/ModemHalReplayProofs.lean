import UspZephyr.ModemHalIrqProofs

/-! # The modem HAL: no radio interrupt lost or invented

    The runs are those of `ModemHalIrq` in which an event callback runs to its
    end before anything else happens and callbacks return unmasked.  Three facts
    are carried along: the flag stands for every unserved event unless an
    enabling call is about to call the callback (`Served`), the call that runs
    is as far as its program counter says (`CallOk`), and no callback was called
    without an event of its own (`count`). -/

namespace ModemHalReplay

open StepRun ModemHal ModemHalIrq

variable {κ : Type}

/-- The callback of an interrupt returns before anything else happens, and
    every callback returns with the interrupts enabled. -/
def Gentle (s : IrqRun κ) (e : IrqEvent κ) : Prop :=
  match s.frames with
  | .callback _ true :: _ => e = .ret
  | .callback _ false :: _ => e = .ret → s.hal.modemIrqEnabled = true
  | _ => True

/-- Radio events so far. -/
def radioEvents : List IrqNote → Nat
  | [] => 0
  | .radioEvent :: notes => radioEvents notes + 1
  | _ :: notes => radioEvents notes

/-- Radio callbacks so far. -/
def radioCalls : List IrqNote → Nat
  | [] => 0
  | .called .radio :: notes => radioCalls notes + 1
  | _ :: notes => radioCalls notes

/-- The calls in progress without the callback of an interrupt. -/
def core : List Frame → List Frame
  | .callback _ true :: fs => fs
  | fs => fs

/-- The enabling call about to call the radio callback. -/
def callingRadio : List Frame → Bool
  | .enabling c :: _ => c.pc == .callRadio
  | _ => false

/-- One radio callback for the events that waited, or none. -/
def EnableCall.Coalesced (c : EnableCall) : Prop :=
  c.replays = if c.waiting then 1 else 0

/-- The enabling call that runs is as far as its program counter says. -/
def CallOk (h : Hal κ) (c : EnableCall) : Prop :=
  match c.pc with
  | .setEnabled => c.replays = 0
      ∧ (h.modemIrqEnabled = true → h.radioIrqPendingWhileDisabled = false)
  | .boardEnableInterrupt | .testRadio => h.modemIrqEnabled = true
      ∧ c.replays = 0 ∧ c.waiting = h.radioIrqPendingWhileDisabled
  | .clearRadio => h.modemIrqEnabled = true ∧ c.replays = 0
      ∧ c.waiting = true ∧ h.radioIrqPendingWhileDisabled = true
  | .callRadio => h.modemIrqEnabled = true ∧ c.replays = 0
      ∧ c.waiting = true ∧ h.radioIrqPendingWhileDisabled = false
  | .testTimer | .clearTimer | .callTimer | .ret => h.modemIrqEnabled = true
      ∧ h.radioIrqPendingWhileDisabled = false ∧ EnableCall.Coalesced c

/-- The calls below the code that runs: enabling calls are past their radio
    callback, and no callback is one of an interrupt. -/
def Below : List Frame → Prop
  | [] => True
  | .callback _ d :: fs => d = false ∧ Below fs
  | .enabling c :: fs => (c.pc = .testTimer ∨ c.pc = .ret)
      ∧ EnableCall.Coalesced c ∧ clientRuns fs = true ∧ Below fs

/-- The calls in progress. -/
def FramesOk (h : Hal κ) : List Frame → Prop
  | .enabling c :: fs => CallOk h c ∧ clientRuns fs = true ∧ Below fs
  | fs => Below fs
      ∧ (h.modemIrqEnabled = true → h.radioIrqPendingWhileDisabled = false)

/-- The flag and the events. -/
structure Served (s : IrqRun κ) : Prop where
  frames : FramesOk s.hal (core s.frames)
  served : unserved s.notes = true → s.hal.radioIrqPendingWhileDisabled = true
    ∨ callingRadio (core s.frames) = true
  masked : s.hal.modemIrqEnabled = false →
    s.hal.radioIrqPendingWhileDisabled = unserved s.notes
  count : radioCalls s.notes + s.hal.radioIrqPendingWhileDisabled.toNat
    + (callingRadio (core s.frames)).toNat ≤ radioEvents s.notes

theorem served_init (κ : Type) : Served (IrqRun.init κ) :=
  ⟨⟨trivial, fun _ => rfl⟩, nofun, nofun, Nat.le_refl 0⟩

/-! ## Bookkeeping -/

/-- What is asked of the calls depends on the mask and the radio flag only. -/
theorem FramesOk.congr {h h' : Hal κ} {fs : List Frame}
    (hen : h'.modemIrqEnabled = h.modemIrqEnabled)
    (hradio : h'.radioIrqPendingWhileDisabled = h.radioIrqPendingWhileDisabled)
    (hok : FramesOk h fs) : FramesOk h' fs := by
  cases fs with
  | nil => exact ⟨hok.1, by rw [hen, hradio]; exact hok.2⟩
  | cons f fs =>
      cases f with
      | callback k d => exact ⟨hok.1, by rw [hen, hradio]; exact hok.2⟩
      | enabling c =>
          refine ⟨?_, hok.2⟩
          have hc := hok.1
          obtain ⟨pc, waiting, replays⟩ := c
          cases pc <;> simpa only [CallOk, hen, hradio] using hc

/-- An enabling call past its first statement runs unmasked. -/
theorem CallOk.enabled {h : Hal κ} {c : EnableCall} (hok : CallOk h c)
    (hpc : c.pc ≠ .setEnabled) : h.modemIrqEnabled = true := by
  obtain ⟨pc, waiting, replays⟩ := c
  cases pc with
  | setEnabled => exact absurd rfl hpc
  | boardEnableInterrupt | testRadio | clearRadio | callRadio | testTimer
  | clearTimer | callTimer | ret => exact hok.1

/-- While masked, the calls ask nothing of the flag. -/
theorem FramesOk.masked {h h' : Hal κ} {fs : List Frame}
    (hmask : h.modemIrqEnabled = false) (hmask' : h'.modemIrqEnabled = false)
    (hok : FramesOk h fs) : FramesOk h' fs := by
  have hno : ¬ h'.modemIrqEnabled = true := by simp [hmask']
  cases fs with
  | nil => exact ⟨hok.1, fun hen => absurd hen hno⟩
  | cons f fs =>
      cases f with
      | callback k d => exact ⟨hok.1, fun hen => absurd hen hno⟩
      | enabling c =>
          refine ⟨?_, hok.2⟩
          by_cases hpc : c.pc = .setEnabled
          · have hc := hok.1
            obtain ⟨pc, waiting, replays⟩ := c
            cases hpc
            exact ⟨hc.1, fun hen => absurd hen hno⟩
          · exact absurd ((hok.1.enabled hpc).symm.trans hmask) nofun

/-- The calls as they are seen by client code. -/
theorem framesOk_client {h : Hal κ} {fs : List Frame}
    (hc : clientRuns fs = true) :
    FramesOk h fs ↔ Below fs ∧ (h.modemIrqEnabled = true →
      h.radioIrqPendingWhileDisabled = false) := by
  cases fs with
  | nil => exact Iff.rfl
  | cons f fs =>
      cases f with
      | callback k d => exact Iff.rfl
      | enabling c => cases hc

theorem callingRadio_client {fs : List Frame} (hc : clientRuns fs = true) :
    callingRadio fs = false := by
  cases fs with
  | nil => rfl
  | cons f fs =>
      cases f with
      | callback k d => rfl
      | enabling c => cases hc

/-- Nothing is left out when no callback of an interrupt runs. -/
theorem core_of_not_direct {fs : List Frame}
    (h : ¬ ∃ k fs', fs = .callback k true :: fs') : core fs = fs := by
  cases fs with
  | nil => rfl
  | cons f fs =>
      cases f with
      | enabling c => rfl
      | callback k d =>
          cases d with
          | false => rfl
          | true => exact absurd ⟨k, fs, rfl⟩ h

/-- No callback of an interrupt lies below. -/
theorem core_of_below {fs : List Frame} (hb : Below fs) : core fs = fs := by
  cases fs with
  | nil => rfl
  | cons f fs =>
      cases f with
      | enabling c => rfl
      | callback k d =>
          obtain ⟨hd, _⟩ := hb
          cases hd
          rfl

theorem FramesOk.core_eq {h : Hal κ} {fs : List Frame} (hok : FramesOk h fs) :
    core fs = fs := by
  cases fs with
  | nil => rfl
  | cons f fs =>
      cases f with
      | enabling c => rfl
      | callback k d => exact core_of_below hok.1

/-- A callback that returns unmasked leaves the calls below in order. -/
theorem framesOk_of_below {h : Hal κ} {fs : List Frame} (hb : Below fs)
    (hen : h.modemIrqEnabled = true)
    (hradio : h.radioIrqPendingWhileDisabled = false) : FramesOk h fs := by
  cases fs with
  | nil => exact ⟨hb, fun _ => hradio⟩
  | cons f fs =>
      cases f with
      | callback k d => exact ⟨hb, fun _ => hradio⟩
      | enabling c =>
          obtain ⟨hpc, hco, hclient, hrest⟩ := hb
          refine ⟨?_, hclient, hrest⟩
          obtain ⟨pc, waiting, replays⟩ := c
          rcases hpc with hpc | hpc
          · cases hpc
            exact ⟨hen, hradio, hco⟩
          · cases hpc
            exact ⟨hen, hradio, hco⟩

theorem callingRadio_of_below {fs : List Frame} (hb : Below fs) :
    callingRadio fs = false := by
  cases fs with
  | nil => rfl
  | cons f fs =>
      cases f with
      | callback k d => rfl
      | enabling c =>
          rcases hb.1 with hpc | hpc
          · show (c.pc == .callRadio) = false
            rw [hpc]
            rfl
          · show (c.pc == .callRadio) = false
            rw [hpc]
            rfl

/-- With the mask lifted, the flag down and no call about to be made, every
    event was served. -/
theorem Served.unserved_eq {s : IrqRun κ} (hs : Served s)
    (hradio : s.hal.radioIrqPendingWhileDisabled = false)
    (hcalling : callingRadio (core s.frames) = false) :
    unserved s.notes = false := by
  cases hu : unserved s.notes with
  | false => rfl
  | true =>
      rcases hs.served hu with h | h
      · exact absurd (hradio.symm.trans h) nofun
      · exact absurd (hcalling.symm.trans h) nofun

/-- The flag, when the mask is about to be lifted. -/
theorem Served.unserved_of_client {s : IrqRun κ} (hs : Served s)
    (hcalling : callingRadio (core s.frames) = false)
    (hclear : s.hal.modemIrqEnabled = true →
      s.hal.radioIrqPendingWhileDisabled = false) :
    s.hal.radioIrqPendingWhileDisabled = unserved s.notes := by
  cases hen : s.hal.modemIrqEnabled with
  | false => exact hs.masked hen
  | true => rw [hclear hen, hs.unserved_eq (hclear hen) hcalling]

/-- What runs on top returns unmasked, with the flag down and no call about to be
    made. -/
theorem Served.pop {s : IrqRun κ} {fs : List Frame} (hs : Served s)
    (hbelow : Below fs) (hen : s.hal.modemIrqEnabled = true)
    (hradio : s.hal.radioIrqPendingWhileDisabled = false)
    (hcalling : callingRadio (core s.frames) = false) :
    Served { s with frames := fs } := by
  have hserved := hs.served
  have hcount := hs.count
  rw [hcalling, ← callingRadio_of_below hbelow] at hserved hcount
  refine ⟨?_, ?_, hs.masked, ?_⟩
  · dsimp only
    rw [core_of_below hbelow]
    exact framesOk_of_below hbelow hen hradio
  · dsimp only
    rw [core_of_below hbelow]
    exact hserved
  · dsimp only
    rw [core_of_below hbelow]
    exact hcount

/-! ## The steps -/

/-- A radio event. -/
theorem radioEvent_served {s : IrqRun κ} (hs : Served s)
    (hcore : core s.frames = s.frames) :
    Served (interrupted s [.radioEvent] (prvTransceiverEventCb s.hal)) := by
  have hcount := hs.count
  have hframes := hs.frames
  rw [hcore] at hcount hframes
  cases hen : s.hal.modemIrqEnabled with
  | true =>
      rw [prvTransceiverEventCb, if_pos hen]
      refine ⟨hframes, Bool.noConfusion, ?_, ?_⟩
      · intro hmask
        exact Bool.noConfusion (hen.symm.trans hmask)
      · show radioCalls s.notes + 1 + s.hal.radioIrqPendingWhileDisabled.toNat
          + (callingRadio s.frames).toNat ≤ radioEvents s.notes + 1
        omega
  | false =>
      rw [prvTransceiverEventCb, if_neg (by simp [hen])]
      refine ⟨hs.frames.masked hen hen, fun _ => Or.inl rfl, fun _ => rfl, ?_⟩
      show radioCalls s.notes + 1 + (callingRadio (core s.frames)).toNat
        ≤ radioEvents s.notes + 1
      rw [hcore]
      omega

/-- A timer expiry does not touch the radio. -/
theorem expire_served {s : IrqRun κ} (hs : Served s)
    (hcore : core s.frames = s.frames) :
    Served (interrupted s []
      (prvSmtcModemHalTimerHandler { s.hal with timerRunning := false })) := by
  have hcount := hs.count
  have hframes := hs.frames
  have hserved := hs.served
  rw [hcore] at hcount hframes hserved
  cases hen : s.hal.modemIrqEnabled with
  | true =>
      rw [prvSmtcModemHalTimerHandler, if_pos hen]
      exact ⟨hframes.congr rfl rfl, hserved, hs.masked, hcount⟩
  | false =>
      rw [prvSmtcModemHalTimerHandler, if_neg (by simp [hen])]
      exact ⟨hs.frames.congr rfl rfl, hs.served, hs.masked, hs.count⟩

/-- The enabling call, one statement on. -/
theorem enableStatement_served {s : IrqRun κ} {c : EnableCall}
    {fs : List Frame} (hfs : s.frames = .enabling c :: fs) (hs : Served s) :
    Served (enableStatement s c fs) := by
  have hframes := hs.frames
  have hserved := hs.served
  have hcount := hs.count
  have hmasked := hs.masked
  have hunserved := hs.unserved_of_client
  rw [hfs] at hframes hserved hcount hunserved
  obtain ⟨hcall, hclient, hbelow⟩ := hframes
  obtain ⟨pc, waiting, replays⟩ := c
  cases pc with
  | setEnabled =>
      -- whether an event waits is settled here
      obtain ⟨hzero, hclear⟩ := hcall
      exact ⟨⟨⟨rfl, hzero, (hunserved rfl hclear).symm⟩, hclient, hbelow⟩,
        hserved, nofun, hcount⟩
  | boardEnableInterrupt =>
      exact ⟨⟨hcall, hclient, hbelow⟩, hserved, hmasked, hcount⟩
  | testRadio =>
      obtain ⟨hen, hzero, hwaiting⟩ := hcall
      rw [enableStatement]
      dsimp only
      cases hradio : s.hal.radioIrqPendingWhileDisabled with
      | true =>
          rw [if_pos rfl]
          exact ⟨⟨⟨hen, hzero, hwaiting.trans hradio, hradio⟩, hclient, hbelow⟩,
            hserved, hmasked, hcount⟩
      | false =>
          rw [if_neg nofun]
          refine ⟨⟨⟨hen, hradio, ?_⟩, hclient, hbelow⟩, hserved, hmasked,
            hcount⟩
          show replays = _
          rw [show waiting = false from hwaiting.trans hradio]
          exact hzero
  | clearRadio =>
      -- from the flag to the call that is about to be made
      obtain ⟨hen, hzero, hwaiting, hradio⟩ := hcall
      refine ⟨⟨⟨hen, hzero, hwaiting, rfl⟩, hclient, hbelow⟩,
        fun _ => Or.inr rfl, ?_, ?_⟩
      · intro hmask
        exact absurd (hen.symm.trans hmask) nofun
      · rw [hradio] at hcount
        exact hcount
  | callRadio =>
      -- the call is counted against the event whose flag was cleared
      obtain ⟨hen, hzero, hwaiting, hradio⟩ := hcall
      refine ⟨⟨⟨rfl, Or.inl rfl, ?_, hclient, hbelow⟩, fun _ => hradio⟩, nofun,
        ?_, ?_⟩
      · show replays + 1 = if waiting then 1 else 0
        rw [show replays = 0 from hzero, show waiting = true from hwaiting]
        rfl
      · intro hmask
        exact absurd (hen.symm.trans hmask) nofun
      · show radioCalls s.notes + 1 + s.hal.radioIrqPendingWhileDisabled.toNat
          + 0 ≤ radioEvents s.notes
        rw [hradio] at hcount ⊢
        exact hcount
  | testTimer =>
      rw [enableStatement]
      dsimp only
      cases s.hal.modemIrqPendingWhileDisabled with
      | true =>
          exact ⟨⟨hcall, hclient, hbelow⟩, hserved, hmasked, hcount⟩
      | false =>
          exact ⟨⟨hcall, hclient, hbelow⟩, hserved, hmasked, hcount⟩
  | clearTimer =>
      exact ⟨⟨hcall, hclient, hbelow⟩, hserved, hmasked, hcount⟩
  | callTimer =>
      obtain ⟨hen, hradio, hco⟩ := hcall
      exact ⟨⟨⟨rfl, Or.inr rfl, hco, hclient, hbelow⟩, fun _ => hradio⟩,
        hserved, hmasked, hcount⟩
  | ret =>
      obtain ⟨hen, hradio, _⟩ := hcall
      refine hs.pop hbelow hen hradio ?_
      rw [hfs]
      rfl

/-- Client code masks the interrupts. -/
theorem disable_served {s : IrqRun κ} (hs : Served s)
    (hcore : core s.frames = s.frames) (hclient : clientRuns s.frames = true) :
    Served { s with hal := smtcModemHalDisableModemIrq s.hal } := by
  have hframes := hs.frames
  rw [hcore, framesOk_client hclient] at hframes
  have hcalling : callingRadio (core s.frames) = false := by
    rw [hcore]
    exact callingRadio_client hclient
  refine ⟨?_, hs.served, ?_, hs.count⟩
  · dsimp only
    rw [hcore, framesOk_client hclient]
    exact ⟨hframes.1, nofun⟩
  · intro _
    exact hs.unserved_of_client hcalling hframes.2

/-- Client code enables them. -/
theorem enable_served {s : IrqRun κ} (hs : Served s)
    (hcore : core s.frames = s.frames) (hclient : clientRuns s.frames = true) :
    Served { s with
      frames := .enabling ⟨.setEnabled, false, 0⟩ :: s.frames } := by
  have hframes := hs.frames
  have hserved := hs.served
  have hcount := hs.count
  rw [hcore, framesOk_client hclient] at hframes
  rw [hcore, callingRadio_client hclient] at hserved hcount
  exact ⟨⟨⟨rfl, hframes.2⟩, hclient, hframes.1⟩, hserved, hs.masked, hcount⟩

/-- Client code drops the event held back. -/
theorem clearPending_served {s : IrqRun κ} (hs : Served s)
    (hcore : core s.frames = s.frames) (hclient : clientRuns s.frames = true) :
    Served { s with
      hal := smtcModemHalRadioIrqClearPending s.hal
      notes := .cleared :: s.notes } := by
  have hframes := hs.frames
  have hcount := hs.count
  rw [hcore, framesOk_client hclient] at hframes
  refine ⟨?_, nofun, fun _ => rfl, ?_⟩
  · dsimp only
    rw [hcore, framesOk_client hclient]
    exact ⟨hframes.1, fun _ => rfl⟩
  · show radioCalls s.notes + 0 + (callingRadio (core s.frames)).toNat
      ≤ radioEvents s.notes
    omega

/-- A callback called by an enabling call returns unmasked. -/
theorem ret_served {s : IrqRun κ} {k : Kind} {fs : List Frame}
    (hfs : s.frames = .callback k false :: fs) (hs : Served s)
    (hen : s.hal.modemIrqEnabled = true) : Served { s with frames := fs } := by
  have hframes := hs.frames
  rw [hfs] at hframes
  obtain ⟨⟨_, hbelow⟩, hclear⟩ := hframes
  refine hs.pop hbelow hen (hclear hen) ?_
  rw [hfs]
  rfl

/-- The callback of an interrupt returns to what it interrupted. -/
theorem directRet_served {s : IrqRun κ} {k : Kind} {fs : List Frame}
    (hfs : s.frames = .callback k true :: fs) (hs : Served s) :
    Served { s with frames := fs } := by
  have hcore : core s.frames = fs := by
    rw [hfs]
    rfl
  have hframes := hs.frames
  rw [hcore] at hframes
  have hfs' := hframes.core_eq
  refine ⟨?_, ?_, hs.masked, ?_⟩
  · dsimp only
    rwa [hfs']
  · dsimp only
    rw [hfs', ← hcore]
    exact hs.served
  · dsimp only
    rw [hfs', ← hcore]
    exact hs.count

/-- Gentle steps keep the flag and the events together. -/
theorem irqStep_served {s t : IrqRun κ} {e : IrqEvent κ} (hok : Gentle s e)
    (hs : Served s) (h : irqStep s e = some t) : Served t := by
  -- while the callback of an interrupt runs, all it may do is return
  by_cases hdirect : ∃ k fs, s.frames = .callback k true :: fs
  · obtain ⟨k, fs, hfs⟩ := hdirect
    rw [Gentle, hfs] at hok
    have he : e = .ret := hok
    subst he
    rw [irqStep, hfs] at h
    cases h
    exact directRet_served hfs hs
  · have hcore := core_of_not_direct hdirect
    cases e with
    | radioEvent =>
        cases h
        exact radioEvent_served hs hcore
    | expire =>
        obtain ⟨_, rfl⟩ := Option.ite_some_none_eq_some.mp h
        exact expire_served hs hcore
    | disable =>
        obtain ⟨hclient, rfl⟩ := Option.ite_some_none_eq_some.mp h
        exact disable_served hs hcore hclient
    | enable =>
        obtain ⟨hclient, rfl⟩ := Option.ite_some_none_eq_some.mp h
        exact enable_served hs hcore hclient
    | clearPending =>
        obtain ⟨hclient, rfl⟩ := Option.ite_some_none_eq_some.mp h
        exact clearPending_served hs hcore hclient
    | startTimer | stopTimer =>
        obtain ⟨_, rfl⟩ := Option.ite_some_none_eq_some.mp h
        exact ⟨hs.frames.congr rfl rfl, hs.served, hs.masked, hs.count⟩
    | ret =>
        obtain ⟨k, d, fs, hfs, rfl⟩ := ret_step h
        cases d with
        | true => exact absurd ⟨k, fs, hfs⟩ hdirect
        | false =>
            rw [Gentle, hfs] at hok
            exact ret_served hfs hs (hok rfl)
    | statement =>
        obtain ⟨c, fs, hfs, rfl⟩ := statement_step h
        exact enableStatement_served hfs hs

/-! ## What the radio can rely on -/

/-- Every radio event was cleared or followed by a radio callback. -/
def AllServed (notes : List IrqNote) : Prop :=
  ∀ later before, notes = later ++ .radioEvent :: before →
    .cleared ∈ later ∨ .called .radio ∈ later

theorem allServed_of_unserved :
    ∀ notes : List IrqNote, unserved notes = false → AllServed notes := by
  intro notes
  induction notes with
  | nil =>
      intro _ later before h
      cases later with
      | nil => cases h
      | cons n later => cases h
  | cons n notes ih =>
      intro hu later before h
      cases later with
      | nil =>
          cases h
          cases hu
      | cons m later =>
          obtain ⟨rfl, hrest⟩ := List.cons.inj h
          cases n with
          | radioEvent => cases hu
          | cleared => exact Or.inl List.mem_cons_self
          | called k =>
              cases k with
              | radio => exact Or.inr List.mem_cons_self
              | timer =>
                  rcases ih hu later before hrest with hc | hr
                  · exact Or.inl (List.mem_cons_of_mem _ hc)
                  · exact Or.inr (List.mem_cons_of_mem _ hr)

/-- **NO RADIO INTERRUPT IS LOST OR INVENTED.**  When an enabling call returns,
    every event was cleared or followed by a callback, and the call itself
    called the radio callback once if an event waited when it lifted the mask,
    else not at all; there were never more callbacks than events. -/
theorem radio_events_served (es : List (IrqEvent κ)) (s : IrqRun κ)
    (hrun : run irqStep (IrqRun.init κ) es = some s)
    (hok : Meets irqStep Gentle (IrqRun.init κ) es) :
    (∀ c fs, s.frames = .enabling c :: fs → c.pc = .ret →
        AllServed s.notes ∧ c.replays = if c.waiting then 1 else 0)
      ∧ radioCalls s.notes ≤ radioEvents s.notes := by
  have hs := meets_invariant Served
    (fun _ _ _ hok hs he => irqStep_served hok hs he) hok (served_init κ) hrun
  constructor
  · intro c fs hfs hpc
    have hframes := hs.frames
    rw [hfs] at hframes
    have hcall := hframes.1
    rw [CallOk, hpc] at hcall
    obtain ⟨_, hradio, hco⟩ := hcall
    refine ⟨allServed_of_unserved _ (hs.unserved_eq hradio ?_), hco⟩
    rw [hfs]
    show (c.pc == .callRadio) = false
    rw [hpc]
    rfl
  · have := hs.count
    omega

/-- Two events are seen while masked, a third one while enabling is about to
    test the flag. -/
def threeEvents : List (IrqEvent Nat) :=
  [.disable, .radioEvent, .radioEvent, .enable, .statement, .statement,
    .radioEvent, .ret, .statement, .statement, .statement, .ret, .statement]

theorem radio_events_served_threeEvents :
    (∀ c fs, [Frame.enabling ⟨.ret, true, 1⟩] = .enabling c :: fs →
        c.pc = .ret →
        AllServed [.called .radio, .called .radio, .radioEvent, .radioEvent,
          .radioEvent] ∧ c.replays = if c.waiting then 1 else 0)
      ∧ 2 ≤ 3 := by
  refine radio_events_served threeEvents
    ⟨Hal.init Nat, [.enabling ⟨.ret, true, 1⟩],
      [.called .radio, .called .radio, .radioEvent, .radioEvent, .radioEvent]⟩
    rfl ?_
  refine .cons rfl trivial (.cons rfl trivial (.cons rfl trivial ?_))
  refine .cons rfl trivial (.cons rfl trivial (.cons rfl trivial ?_))
  refine .cons rfl trivial (.cons rfl rfl (.cons rfl trivial ?_))
  refine .cons rfl trivial (.cons rfl trivial (.cons rfl (fun _ => rfl) ?_))
  exact .cons rfl trivial trivial

end ModemHalReplay
