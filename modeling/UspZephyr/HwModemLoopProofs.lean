import UspZephyr.HwModemHandshakeProofs

/-! # The main loop of the hardware modem

    The loop processes a waiting command, runs the engines, and sleeps if a test
    under `irq_lock` finds neither a command nor an interrupt of the stack
    pending.  The sleep itself, a take of the binary semaphore that every wake-up
    gives, is behind the critical section.

    The statements of `hw_modem_process_cmd` are those of the handshake, and the
    interrupts may come between any two statements of either.  `Inv` relates the
    flag, the semaphore and the place in the loop; `never_sleeps_on_command` is
    about every run. -/

namespace HwModemLoop

open HwModem StepRun

/-! ## The program -/

/-- Where `main` is in its loop. -/
inductive Pc where
  | checkCmd
  | processCmd
  | modemRunEngine
  | racRunEngine
  | flrpRunEngine
  | racIrqPending
  | critical
  | test (isSleepOk : Bool)
  | msleep
  /-- Inside `k_sem_take`, the semaphore having been found at 0. -/
  | blocked
  deriving DecidableEq

/-- The modem with its interrupts and `hw_modem_process_cmd`, and `main`. -/
structure Loop where
  machine : HwModemHandshake.Machine
  pc : Pc
  sleepTimeMs : UInt32

/-- What the stack answers: the result of `smtc_modem_run_engine`,
    `smtc_rac_is_irq_flag_pending` and `smtc_modem_is_irq_flag_pending`. -/
structure Answers where
  sleepTimeMs : UInt32
  racIrqPending : Bool
  modemIrqPending : Bool

/-- The parts of the build: `CONFIG_USP_FLRP` and `WATCHDOG_RELOAD_PERIOD_MS`. -/
structure Config where
  flrp : Bool
  watchdogReloadPeriodMs : UInt32

/-- `hw_modem_is_low_power_ok`, which changes the mode once it was asked. -/
def hwModemIsLowPowerOk (m : Modem) : Bool × Modem :=
  match m.lpMode with
  | .enable => (true, m)
  | .disableOnce => (false, { m with lpMode := .enable })
  | .disable => (false, m)

/-- The test under `irq_lock`, which looks at what is right of a `&&` only if it
    has to. -/
def sleepTest (a : Answers) (m : Modem) : Bool × Modem :=
  if m.hwCmdAvailable then (false, m)
  else
    let (lowPowerOk, m) := hwModemIsLowPowerOk m
    (lowPowerOk && !a.modemIrqPending, m)

def Loop.withModem (s : Loop) (m : Modem) : Loop :=
  { s with machine := { s.machine with modem := m } }

/-- `smtc_modem_hal_interruptible_msleep`: it takes the semaphore, returns at
    once if it is not to wait, or blocks. -/
def interruptibleMsleep (sleepTimeMs : UInt32) (s : Loop) : Loop :=
  let m := s.machine.modem
  if m.mainLoopSem then
    { s.withModem { m with mainLoopSem := false } with pc := .checkCmd }
  else if sleepTimeMs = 0 then { s with pc := .checkCmd }
  else { s with pc := .blocked }

/-- The next statement of `main`. -/
def statement (p : CmdParser) (cfg : Config) (a : Answers) (s : Loop) :
    Option Loop :=
  match s.pc with
  | .checkCmd =>
      if s.machine.modem.hwCmdAvailable then
        (HwModemHandshake.step p s.machine .invoke).map fun m =>
          { s with machine := m, pc := .processCmd }
      else some { s with pc := .modemRunEngine }
  | .processCmd =>
      (HwModemHandshake.step p s.machine .statement).map fun m =>
        { s with
          machine := m
          pc := if m.pc = .idle then .modemRunEngine else .processCmd }
  | .modemRunEngine =>
      some { s with sleepTimeMs := a.sleepTimeMs, pc := .racRunEngine }
  | .racRunEngine =>
      some { s with pc := if cfg.flrp then .flrpRunEngine else .critical }
  | .flrpRunEngine => some { s with pc := .racIrqPending }
  | .racIrqPending =>
      some { s with pc := if a.racIrqPending then .checkCmd else .critical }
  | .critical =>
      let (isSleepOk, m) := sleepTest a s.machine.modem
      some { s.withModem m with pc := .test isSleepOk }
  | .test isSleepOk =>
      some { s with pc := if isSleepOk then .msleep else .checkCmd }
  | .msleep =>
      some (interruptibleMsleep (min s.sleepTimeMs cfg.watchdogReloadPeriodMs) s)
  | .blocked => none

/-- What can happen next. -/
inductive Event where
  | statement (a : Answers)
  /-- The host, and the interrupts of its lines. -/
  | commandLine (level : Bool)
  | wakeup (rxReady irqUpdate : Bool)
  | uart (u : UartIrq)
  /-- `smtc_modem_hal_wake_up` from anywhere else. -/
  | wakeUp
  /-- The sleep times out. -/
  | timeout

/-- A semaphore that is given while `main` waits for it lets `main` go on. -/
def handOver (s : Loop) : Loop :=
  if s.pc = .blocked ∧ s.machine.modem.mainLoopSem = true then
    { s.withModem { s.machine.modem with mainLoopSem := false } with
      pc := .checkCmd }
  else s

/-- An interrupt of the handshake. -/
def interrupt (p : CmdParser) (s : Loop) (e : HwModemHandshake.Event) :
    Option Loop :=
  (HwModemHandshake.step p s.machine e).map fun m =>
    handOver { s with machine := m }

def step (p : CmdParser) (cfg : Config) (s : Loop) : Event → Option Loop
  | .statement a => statement p cfg a s
  | .commandLine level => interrupt p s (.commandLine level)
  | .wakeup rxReady irqUpdate => interrupt p s (.wakeup rxReady irqUpdate)
  | .uart u => interrupt p s (.uart u)
  | .wakeUp =>
      some (handOver (s.withModem { s.machine.modem with mainLoopSem := true }))
  | .timeout => if s.pc = .blocked then some { s with pc := .checkCmd } else none

/-- `main` at its loop. -/
def initial : Loop := ⟨HwModemHandshake.initial, .checkCmd, 0⟩

/-! ## The invariant -/

/-- What the flag and the semaphore say at each place: once the test has said
    that `main` may sleep, a command that came since has left its token, and
    nobody but `main` takes it. -/
def Covered (m : Modem) : Pc → Prop
  | .test true => m.hwCmdAvailable = true → m.mainLoopSem = true
  | .msleep => m.hwCmdAvailable = true → m.mainLoopSem = true
  | .blocked => m.hwCmdAvailable = false
  | _ => True

structure Inv (s : Loop) : Prop where
  processing : s.pc = .processCmd ↔ s.machine.pc ≠ .idle
  covered : Covered s.machine.modem s.pc

/-- What an interrupt can do to the flag and the semaphore: a command that
    becomes available gives it. -/
structure Gives (m m' : Modem) : Prop where
  flag : m'.hwCmdAvailable = true → m'.mainLoopSem = true
    ∨ m.hwCmdAvailable = true
  sem : m.mainLoopSem = true → m'.mainLoopSem = true

/-- What touches neither gives nothing. -/
theorem Gives.same {m m' : Modem} (hflag : m'.hwCmdAvailable = m.hwCmdAvailable)
    (hsem : m'.mainLoopSem = m.mainLoopSem) : Gives m m' :=
  ⟨fun h => Or.inr (hflag.symm.trans h), fun h => hsem.trans h⟩

/-! ## Interrupts -/

theorem foldl_storeReceivedByte_gives (cs : List UInt8) (m : Modem) :
    Gives m (cs.foldl storeReceivedByte m) := by
  induction cs generalizing m with
  | nil => exact .same rfl rfl
  | cons c cs ih =>
      have hstore : Gives m (storeReceivedByte m c) := by
        rw [storeReceivedByte]
        split
        · exact .same rfl rfl
        · exact .same rfl rfl
      obtain ⟨hflag, hsem⟩ := ih (storeReceivedByte m c)
      refine ⟨?_, fun h => hsem (hstore.sem h)⟩
      intro h
      rcases hflag h with hgiven | hbefore
      · exact Or.inl hgiven
      · rcases hstore.flag hbefore with hgiven | hbefore
        · exact Or.inl (hsem hgiven)
        · exact Or.inr hbefore

theorem uartIrq_gives (u : UartIrq) (m : Modem) :
    Gives m (uartIrqRxCallbackHandler u m) := by
  rw [uartIrqRxCallbackHandler]
  cases u.irqUpdate with
  | false => exact .same rfl rfl
  | true =>
      cases u.rxReady with
      | false => exact .same rfl rfl
      | true => exact foldl_storeReceivedByte_gives u.fifo m

theorem startReception_gives (rxReady irqUpdate : Bool) (m : Modem) :
    Gives m { hwModemStartReception rxReady irqUpdate m with
      lpMode := .disable } := by
  rw [hwModemStartReception]
  cases rxReady && !irqUpdate with
  | true => exact .same rfl rfl
  | false => exact .same rfl rfl

/-- The handler of the COMMAND line gives the semaphore with the flag. -/
theorem wakeupLineIrqHandler_gives (rxReady irqUpdate : Bool) (m : Modem) :
    Gives m (wakeupLineIrqHandler rxReady irqUpdate m) := by
  rcases HwModemHandshake.wakeupLineIrqHandler_cases rxReady irqUpdate m with
    ⟨-, -, hm⟩ | ⟨-, -, hm⟩ | ⟨-, hm⟩
  · rw [hm]
    exact startReception_gives rxReady irqUpdate m
  · rw [hm]
    exact ⟨fun _ => Or.inl rfl, fun _ => rfl⟩
  · rw [hm]
    exact .same rfl rfl

/-- Any interrupt. -/
theorem interrupt_gives {p : CmdParser} {s t : HwModemHandshake.Machine}
    {e : HwModemHandshake.Event} (h1 : e ≠ .invoke) (h2 : e ≠ .statement)
    (h : HwModemHandshake.step p s e = some t) : Gives s.modem t.modem := by
  cases e with
  | commandLine level =>
      cases h
      exact .same rfl rfl
  | wakeup rxReady irqUpdate =>
      obtain ⟨-, rfl⟩ := Option.ite_some_none_eq_some.mp h
      exact wakeupLineIrqHandler_gives rxReady irqUpdate s.modem
  | uart u =>
      obtain ⟨-, rfl⟩ := Option.ite_some_none_eq_some.mp h
      exact uartIrq_gives u s.modem
  | invoke => exact absurd rfl h1
  | statement => exact absurd rfl h2

/-- A loop that does not wait is covered after what gives as before. -/
theorem Covered.gives {m m' : Modem} {pc : Pc} (h : Covered m pc)
    (hpc : pc ≠ .blocked) (hgives : Gives m m') : Covered m' pc := by
  have hcover : (m.hwCmdAvailable = true → m.mainLoopSem = true) →
      m'.hwCmdAvailable = true → m'.mainLoopSem = true := by
    intro hbefore havailable
    rcases hgives.flag havailable with hgiven | hwas
    · exact hgiven
    · exact hgives.sem (hbefore hwas)
  cases pc with
  | test isSleepOk =>
      cases isSleepOk with
      | true => exact hcover h
      | false => trivial
  | msleep => exact hcover h
  | blocked => exact absurd rfl hpc
  | checkCmd | processCmd | modemRunEngine | racRunEngine | flrpRunEngine
  | racIrqPending | critical => trivial

/-- A give, with the semaphore handed over if the loop waits for it. -/
theorem Inv.handOver {s : Loop} {m : HwModemHandshake.Machine} (hs : Inv s)
    (hpc : m.pc = s.machine.pc) (hgives : Gives s.machine.modem m.modem) :
    Inv (handOver { s with machine := m }) := by
  rw [HwModemLoop.handOver]
  by_cases hwait : s.pc = .blocked ∧ m.modem.mainLoopSem = true
  · rw [if_pos hwait]
    refine ⟨⟨nofun, ?_⟩, trivial⟩
    intro hidle
    have hprocess := hs.processing.mpr (hpc ▸ hidle)
    exact absurd (hwait.1.symm.trans hprocess) nofun
  · rw [if_neg hwait]
    refine ⟨by rw [hpc]; exact hs.processing, ?_⟩
    by_cases hblocked : s.pc = .blocked
    · -- it goes on waiting, so nothing was given
      have hnone : m.modem.mainLoopSem ≠ true := fun h => hwait ⟨hblocked, h⟩
      have hcovered := hs.covered
      rw [hblocked] at hcovered
      show Covered m.modem s.pc
      rw [hblocked]
      refine Bool.eq_false_iff.mpr ?_
      intro havailable
      rcases hgives.flag havailable with hgiven | hwas
      · exact hnone hgiven
      · exact absurd (hcovered.symm.trans hwas) nofun
    · exact hs.covered.gives hblocked hgives

/-! ## One step -/

/-- The test lets `main` sleep only without a command. -/
theorem sleepTest_spec (a : Answers) (m : Modem) :
    ((sleepTest a m).1 = true → m.hwCmdAvailable = false)
      ∧ (sleepTest a m).2.hwCmdAvailable = m.hwCmdAvailable := by
  rw [sleepTest]
  cases havailable : m.hwCmdAvailable with
  | true => exact ⟨nofun, havailable⟩
  | false =>
      refine ⟨fun _ => rfl, ?_⟩
      rw [hwModemIsLowPowerOk]
      cases m.lpMode with
      | enable => exact havailable
      | disableOnce => exact havailable
      | disable => exact havailable

/-- Outside `hw_modem_process_cmd` only what is covered has to be shown. -/
theorem Inv.elsewhere {machine : HwModemHandshake.Machine} {pc pc' : Pc}
    {sleepTimeMs sleepTimeMs' : UInt32} {m : Modem}
    (hs : Inv ⟨machine, pc, sleepTimeMs⟩) (hfrom : pc ≠ .processCmd)
    (hto : pc' ≠ .processCmd) (hcovers : Covered m pc') :
    Inv ⟨{ machine with modem := m }, pc', sleepTimeMs'⟩ := by
  refine ⟨⟨fun h => absurd h hto, ?_⟩, hcovers⟩
  intro hbusy
  exact absurd (hs.processing.mpr hbusy) hfrom

/-- A test that allows the sleep covers a command that comes later. -/
theorem sleepTest_covered (a : Answers) (m : Modem) :
    Covered (sleepTest a m).2 (.test (sleepTest a m).1) := by
  obtain ⟨hok, hflag⟩ := sleepTest_spec a m
  cases htest : (sleepTest a m).1 with
  | false => trivial
  | true =>
      intro havailable
      rw [hflag, hok htest] at havailable
      cases havailable

/-- A statement of `main`, or of what it calls. -/
theorem statement_inv {p : CmdParser} {cfg : Config} {a : Answers} {s t : Loop}
    (hs : Inv s) (h : statement p cfg a s = some t) : Inv t := by
  obtain ⟨machine, pc, sleepTimeMs⟩ := s
  have hcovered := hs.covered
  dsimp only at hcovered
  cases pc with
  | checkCmd =>
      by_cases havailable : machine.modem.hwCmdAvailable = true
      · simp only [statement, havailable, if_true] at h
        obtain ⟨m, hm, rfl⟩ := Option.map_eq_some_iff.mp h
        obtain ⟨-, -, -, hpc⟩ := HwModemHandshake.invoke_spec hm
        refine ⟨⟨fun _ => ?_, fun _ => rfl⟩, trivial⟩
        rw [hpc]
        exact nofun
      · simp only [statement, if_neg havailable] at h
        cases h
        exact hs.elsewhere nofun nofun trivial
  | processCmd =>
      obtain ⟨m, -, rfl⟩ := Option.map_eq_some_iff.mp h
      by_cases hdone : m.pc = .idle
      · rw [if_pos hdone]
        exact ⟨⟨nofun, fun hbusy => absurd hdone hbusy⟩, trivial⟩
      · rw [if_neg hdone]
        exact ⟨⟨fun _ => hdone, fun _ => rfl⟩, trivial⟩
  | modemRunEngine =>
      cases h
      exact hs.elsewhere nofun nofun trivial
  | racRunEngine =>
      cases h
      cases cfg.flrp with
      | true => exact hs.elsewhere nofun nofun trivial
      | false => exact hs.elsewhere nofun nofun trivial
  | flrpRunEngine =>
      cases h
      exact hs.elsewhere nofun nofun trivial
  | racIrqPending =>
      cases h
      cases a.racIrqPending with
      | true => exact hs.elsewhere nofun nofun trivial
      | false => exact hs.elsewhere nofun nofun trivial
  | critical =>
      obtain rfl := Option.some.inj h
      exact hs.elsewhere nofun nofun (sleepTest_covered a machine.modem)
  | test isSleepOk =>
      cases h
      cases isSleepOk with
      | true => exact hs.elsewhere nofun nofun hcovered
      | false => exact hs.elsewhere nofun nofun trivial
  | msleep =>
      cases h
      rw [interruptibleMsleep]
      dsimp only
      by_cases hsem : machine.modem.mainLoopSem = true
      · rw [if_pos hsem]
        exact hs.elsewhere nofun nofun trivial
      · rw [if_neg hsem]
        split
        · exact hs.elsewhere nofun nofun trivial
        · -- no token: no command came since the test
          refine hs.elsewhere nofun nofun ?_
          exact Bool.eq_false_iff.mpr fun havailable => hsem (hcovered havailable)
  | blocked => cases h

theorem step_inv {p : CmdParser} {cfg : Config} {s t : Loop} {e : Event}
    (hs : Inv s) (h : step p cfg s e = some t) : Inv t := by
  have hinterrupt : ∀ e' : HwModemHandshake.Event, e' ≠ .invoke →
      e' ≠ .statement → interrupt p s e' = some t → Inv t := by
    intro e' h1 h2 hint
    obtain ⟨m, hm, rfl⟩ := Option.map_eq_some_iff.mp hint
    exact hs.handOver (HwModemHandshake.step_frame h1 h2 hm).1
      (interrupt_gives h1 h2 hm)
  cases e with
  | statement a => exact statement_inv hs h
  | commandLine level => exact hinterrupt (.commandLine level) nofun nofun h
  | wakeup rxReady irqUpdate =>
      exact hinterrupt (.wakeup rxReady irqUpdate) nofun nofun h
  | uart u => exact hinterrupt (.uart u) nofun nofun h
  | wakeUp =>
      cases h
      exact hs.handOver rfl ⟨fun h => Or.inr h, fun _ => rfl⟩
  | timeout =>
      obtain ⟨hblocked, h⟩ := Option.ite_none_right_eq_some.mp h
      cases h
      refine ⟨⟨nofun, ?_⟩, trivial⟩
      intro hbusy
      exact absurd (hblocked.symm.trans (hs.processing.mpr hbusy)) nofun

/-! ## Every run -/

theorem inv_initial : Inv initial :=
  ⟨⟨nofun, fun h => absurd rfl h⟩, trivial⟩

theorem run_inv {p : CmdParser} {cfg : Config} {es : List Event} {s : Loop}
    (h : run (step p cfg) initial es = some s) : Inv s :=
  run_invariant Inv (fun _ => True) (fun _ _ _ _ hs he => step_inv hs he)
    (fun _ _ => trivial) inv_initial h

/-- Every statement of `hw_modem_process_cmd` is possible. -/
theorem processCmd_goes_on (p : CmdParser) {m : HwModemHandshake.Machine}
    (h : m.pc ≠ .idle) : ∃ m', HwModemHandshake.statement p m = some m' := by
  obtain ⟨modem, ep, pc, loc⟩ := m
  cases pc with
  | idle => exact absurd rfl h
  | checkId | commandCrc | checkCrc | checkExtra | responseCrc | send =>
      simp only [HwModemHandshake.statement]
      split
      · exact ⟨_, rfl⟩
      · exact ⟨_, rfl⟩
  | readLength | readCrc | readId | parse | writeRc | writeLength | setReady
  | clearAvailable | raiseBusy | storeCrc => exact ⟨_, rfl⟩

/-- **THE LOOP GOES ON** in every state of a run, unless it is blocked. -/
theorem loop_goes_on {p : CmdParser} {cfg : Config} {es : List Event} {s : Loop}
    (h : run (step p cfg) initial es = some s) (hpc : s.pc ≠ .blocked)
    (a : Answers) : ∃ t, step p cfg s (.statement a) = some t := by
  have hprocessing := (run_inv h).processing
  obtain ⟨machine, pc, sleepTimeMs⟩ := s
  cases pc with
  | checkCmd =>
      by_cases havailable : machine.modem.hwCmdAvailable = true
      · have hidle : machine.pc = .idle :=
          Decidable.byContradiction fun hbusy =>
            absurd (hprocessing.mpr hbusy) nofun
        simp [step, statement, HwModemHandshake.step, havailable, hidle]
      · simp [step, statement, havailable]
  | processCmd =>
      obtain ⟨m, hm⟩ := processCmd_goes_on p (hprocessing.mp rfl)
      exact ⟨_, Option.map_eq_some_iff.mpr ⟨m, hm, rfl⟩⟩
  | blocked => exact absurd rfl hpc
  | modemRunEngine | racRunEngine | flrpRunEngine | racIrqPending | critical
  | test | msleep => exact ⟨_, rfl⟩

/-- **THE LOOP NEVER SLEEPS ON A WAITING COMMAND**: in no state of a run is it
    blocked on the semaphore while a command is available. -/
theorem never_sleeps_on_command (p : CmdParser) (cfg : Config) (es : List Event)
    (s : Loop) (h : run (step p cfg) initial es = some s) :
    ¬ (s.pc = .blocked ∧ s.machine.modem.mainLoopSem = false
      ∧ s.machine.modem.hwCmdAvailable = true) := by
  rintro ⟨hblocked, -, havailable⟩
  have hcovered := (run_inv h).covered
  rw [hblocked] at hcovered
  exact absurd (hcovered.symm.trans havailable) nofun

/-- Nothing pending, and a second to sleep. -/
def quietAnswers : Answers := ⟨1000, false, false⟩

/-- A command that arrives between the test and the sleep. -/
def lateCommand : List Event :=
  List.replicate 4 (.statement quietAnswers)
    ++ [.commandLine false, .wakeup false true,
      .uart ⟨true, true, [0x10, 0x00, 0x10]⟩, .commandLine true,
      .wakeup false true]
    ++ List.replicate 2 (.statement quietAnswers)

theorem never_sleeps_on_lateCommand :
    ¬ (((run (step silentParser ⟨false, 20000⟩) initial lateCommand).get
        (by decide)).pc = .blocked
      ∧ ((run (step silentParser ⟨false, 20000⟩) initial lateCommand).get
        (by decide)).machine.modem.mainLoopSem = false
      ∧ ((run (step silentParser ⟨false, 20000⟩) initial lateCommand).get
        (by decide)).machine.modem.hwCmdAvailable = true) :=
  never_sleeps_on_command silentParser ⟨false, 20000⟩ lateCommand _
    (Option.some_get _).symm

end HwModemLoop
