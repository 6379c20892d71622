import UspZephyr.HwModemProofs
import UspZephyr.StepRunProofs

/-! # The hardware modem handshake, statement by statement

    `hw_modem_process_cmd` runs in the main loop and shares two flags, the
    receive buffer and the BUSY line with the interrupt handler of the COMMAND
    line.  Here it is a program counter with its local variables, and the
    interrupts may come between any two of its statements.

    Uninterrupted, the statements compute `hwModemProcessCmd`
    (`statements_processCmd`).  For the interrupted runs, what the two sides
    share is a `Line`, and `step_turn` says once what any step can do to it.  The
    invariants, the fate of a completed reception and the origin of an executed
    frame are then cases of `Turn`; `commands_kept` puts them together. -/

namespace HwModemHandshake

open ByteMemory XorFrame HwModem StepRun

/-! ## The program -/

/-- Where the main loop is in `hw_modem_process_cmd`. -/
inductive Pc where
  | idle
  | checkId
  | readLength
  | commandCrc (i : Nat)
  | readCrc
  | readId
  | checkCrc
  | checkExtra
  | parse
  | writeRc
  | writeLength
  /-- The last three are shared with the branch that does not answer. -/
  | setReady (answers : Bool)
  | clearAvailable (answers : Bool)
  | raiseBusy (answers : Bool)
  | responseCrc (i : Nat)
  | storeCrc
  | send (i : Nat)
  deriving DecidableEq, Repr

/-- The local variables of `hw_modem_process_cmd`. -/
structure Locals where
  cmdLength : UInt8
  crc : UInt8
  calculatedCrc : UInt8
  cmdCrc : UInt8
  cmdId : UInt8
  rcCode : UInt8

/-- The modem, the pending interrupt of the COMMAND line and the main loop. -/
structure Machine where
  modem : Modem
  edgePending : Bool
  pc : Pc
  loc : Locals

/-- The input `parse_cmd` gets when it is called now. -/
def Machine.parserInput (s : Machine) : CmdInput :=
  ⟨s.loc.cmdId, s.loc.cmdLength, fun i => s.modem.modemReceivedBuff (2 + i)⟩

/-- `rc_code = CMD_RC_FRAME_ERROR; response_length = 0`. -/
def frameError (p : CmdParser) (s : Machine) : Machine :=
  { s with
    loc := { s.loc with rcCode := p.cmdRcFrameError }
    modem := { s.modem with responseLength := 0 }
    pc := .writeRc }

/-- The call of `parse_cmd`. -/
def callParser (p : CmdParser) (s : Machine) : Machine :=
  let response := s.modem.modemResponseBuff
  let output := p.parseCmd s.parserInput (fun i => response (2 + i))
  { s with
    loc := { s.loc with rcCode := output.returnCode }
    modem :=
      { s.modem with
        modemResponseBuff :=
          fun i => if i < 2 then response i else output.buffer (i - 2)
        responseLength := output.length }
    pc := .writeRc }

/-- The next statement of `hw_modem_process_cmd`. -/
def statement (p : CmdParser) (s : Machine) : Option Machine :=
  let buff := s.modem.modemReceivedBuff
  let n := s.loc.cmdLength.toNat
  match s.pc with
  | .idle => none
  | .checkId =>
      if buff 0 < 0xFF then some { s with pc := .readLength }
      else some { s with pc := .setReady false }
  | .readLength =>
      some { s with
        loc := { s.loc with cmdLength := buff 1, crc := 0 }
        pc := .commandCrc 0 }
  | .commandCrc i =>
      if i < n + 2 then
        some { s with
          loc := { s.loc with crc := s.loc.crc ^^^ buff i }
          pc := .commandCrc (i + 1) }
      else
        some { s with
          loc := { s.loc with calculatedCrc := s.loc.crc }
          pc := .readCrc }
  | .readCrc =>
      some { s with
        loc := { s.loc with cmdCrc := buff (n + 2) }
        pc := .readId }
  | .readId =>
      some { s with loc := { s.loc with cmdId := buff 0 }, pc := .checkCrc }
  | .checkCrc =>
      if s.loc.calculatedCrc ≠ s.loc.cmdCrc then some (frameError p s)
      else some { s with pc := .checkExtra }
  | .checkExtra =>
      if buff (n + 3) ≠ 0xFF ∧ s.loc.cmdLength ≠ 0xFF then
        some (frameError p s)
      else some { s with pc := .parse }
  | .parse => some (callParser p s)
  | .writeRc =>
      some { s with
        modem :=
          { s.modem with
            modemResponseBuff := setByte s.modem.modemResponseBuff 0 s.loc.rcCode }
        pc := .writeLength }
  | .writeLength =>
      some { s with
        modem :=
          { s.modem with
            modemResponseBuff :=
              setByte s.modem.modemResponseBuff 1
                (UInt8.ofNat s.modem.responseLength) }
        pc := .setReady true }
  | .setReady answers =>
      some { s with
        modem := { s.modem with isHwModemReadyToReceive := true }
        pc := .clearAvailable answers }
  | .clearAvailable answers =>
      some { s with
        modem := { s.modem with hwCmdAvailable := false }
        pc := .raiseBusy answers }
  | .raiseBusy answers =>
      some { s with
        modem := { s.modem with busy := true }
        pc := if answers then .responseCrc 0 else .idle }
  | .responseCrc i =>
      if i < s.modem.responseLength + 2 then
        some { s with
          loc := { s.loc with crc := s.loc.crc ^^^ s.modem.modemResponseBuff i }
          pc := .responseCrc (i + 1) }
      else some { s with pc := .storeCrc }
  | .storeCrc =>
      some { s with
        modem :=
          { s.modem with
            modemResponseBuff :=
              setByte s.modem.modemResponseBuff (s.modem.responseLength + 2)
                s.loc.crc }
        pc := .send 0 }
  | .send i =>
      if i < s.modem.responseLength + 3 then
        some { s with
          modem :=
            { s.modem with
              uartTx := s.modem.uartTx ++ [s.modem.modemResponseBuff i] }
          pc := .send (i + 1) }
      else some { s with pc := .idle }

/-- What can happen next. -/
inductive Event where
  /-- The host drives the COMMAND line. -/
  | commandLine (level : Bool)
  /-- `wakeup_line_irq_handler` runs for an edge, with what the UART driver
      answers it. -/
  | wakeup (rxReady irqUpdate : Bool)
  | uart (u : UartIrq)
  /-- The main loop finds a command available and calls
      `hw_modem_process_cmd`. -/
  | invoke
  | statement

def step (p : CmdParser) (s : Machine) : Event → Option Machine
  | .commandLine level =>
      some { s with
        modem := { s.modem with command := level }
        edgePending := s.edgePending || (level != s.modem.command) }
  | .wakeup rxReady irqUpdate =>
      if s.edgePending then
        some { s with
          modem := wakeupLineIrqHandler rxReady irqUpdate s.modem
          edgePending := false }
      else none
  | .uart u =>
      if s.modem.uartRxEnabled then
        some { s with modem := uartIrqRxCallbackHandler u s.modem }
      else none
  | .invoke =>
      if s.pc = .idle ∧ s.modem.hwCmdAvailable = true then
        some { s with pc := .checkId, loc := { s.loc with cmdLength := 0xFF } }
      else none
  | .statement => statement p s

/-- The machine after `hw_modem_init`. -/
def initial : Machine where
  modem := initialModem
  edgePending := false
  pc := .idle
  loc := ⟨0, 0, 0, 0, 0, 0⟩

/-! ## An invocation that nothing interrupts

    The statements, one after the other, compute `hwModemProcessCmd`. -/

/-- Statements of one invocation lead from `s` to `t`. -/
def Statements (p : CmdParser) (s t : Machine) : Prop :=
  ∃ n, run (step p) s (List.replicate n .statement) = some t

theorem Statements.refl (p : CmdParser) (s : Machine) : Statements p s s :=
  ⟨0, rfl⟩

/-- One statement and then more. -/
theorem Statements.head {p : CmdParser} {s t u : Machine}
    (h : statement p s = some t) (hrest : Statements p t u) :
    Statements p s u := by
  obtain ⟨n, hn⟩ := hrest
  refine ⟨n + 1, ?_⟩
  show (statement p s).bind _ = _
  rw [h]
  exact hn

theorem Statements.trans {p : CmdParser} {s t u : Machine}
    (h : Statements p s t) (hrest : Statements p t u) : Statements p s u := by
  obtain ⟨n, hn⟩ := h
  obtain ⟨k, hk⟩ := hrest
  refine ⟨n + k, ?_⟩
  rw [← List.replicate_append_replicate, run_append, hn]
  exact hk

/-- The loop over the command. -/
theorem statements_commandCrc (p : CmdParser) (m : Modem) (ep : Bool) (k : Nat) :
    ∀ (i : Nat) (loc : Locals), i + k = loc.cmdLength.toNat + 2 →
      loc.crc = xorLoop 0 m.modemReceivedBuff i →
      Statements p ⟨m, ep, .commandCrc i, loc⟩
        ⟨m, ep, .readCrc,
          { loc with
            crc := xorLoop 0 m.modemReceivedBuff (loc.cmdLength.toNat + 2)
            calculatedCrc :=
              xorLoop 0 m.modemReceivedBuff (loc.cmdLength.toNat + 2) }⟩ := by
  induction k with
  | zero =>
      intro i loc hi hcrc
      have hdone : statement p ⟨m, ep, .commandCrc i, loc⟩
          = some ⟨m, ep, .readCrc, { loc with calculatedCrc := loc.crc }⟩ :=
        if_neg (by dsimp only; omega)
      rw [← hi, Nat.add_zero, ← hcrc]
      exact .head hdone (.refl _ _)
  | succ k ih =>
      intro i loc hi hcrc
      have hturn : statement p ⟨m, ep, .commandCrc i, loc⟩
          = some ⟨m, ep, .commandCrc (i + 1),
            { loc with crc := loc.crc ^^^ m.modemReceivedBuff i }⟩ :=
        if_pos (by dsimp only; omega)
      refine .head hturn (ih (i + 1) _ (by dsimp only; omega) ?_)
      show loc.crc ^^^ _ = _
      rw [hcrc]
      rfl

/-- The loop over the response. -/
theorem statements_responseCrc (p : CmdParser) (m : Modem) (ep : Bool)
    (crc : UInt8) (k : Nat) :
    ∀ (i : Nat) (loc : Locals), i + k = m.responseLength + 2 →
      loc.crc = xorLoop crc m.modemResponseBuff i →
      Statements p ⟨m, ep, .responseCrc i, loc⟩
        ⟨m, ep, .storeCrc,
          { loc with
            crc := xorLoop crc m.modemResponseBuff (m.responseLength + 2) }⟩ := by
  induction k with
  | zero =>
      intro i loc hi hcrc
      have hdone : statement p ⟨m, ep, .responseCrc i, loc⟩
          = some ⟨m, ep, .storeCrc, loc⟩ := if_neg (by dsimp only; omega)
      rw [← hi, Nat.add_zero, ← hcrc]
      exact .head hdone (.refl _ _)
  | succ k ih =>
      intro i loc hi hcrc
      have hturn : statement p ⟨m, ep, .responseCrc i, loc⟩
          = some ⟨m, ep, .responseCrc (i + 1),
            { loc with crc := loc.crc ^^^ m.modemResponseBuff i }⟩ :=
        if_pos (by dsimp only; omega)
      refine .head hturn (ih (i + 1) _ (by omega) ?_)
      show loc.crc ^^^ _ = _
      rw [hcrc]
      rfl

/-- The blocking send. -/
theorem statements_send (p : CmdParser) (m : Modem) (ep : Bool) (loc : Locals)
    (tx : List UInt8) (k : Nat) :
    ∀ i, i + k = m.responseLength + 3 →
      Statements p
        ⟨{ m with uartTx := tx ++ firstBytes m.modemResponseBuff i }, ep,
          .send i, loc⟩
        ⟨{ m with
            uartTx :=
              tx ++ firstBytes m.modemResponseBuff (m.responseLength + 3) },
          ep, .idle, loc⟩ := by
  induction k with
  | zero =>
      intro i hi
      rw [Nat.add_zero] at hi
      subst hi
      exact .head (if_neg (Nat.lt_irrefl _)) (.refl _ _)
  | succ k ih =>
      intro i hi
      refine .head (if_pos (by dsimp only; omega)) ?_
      dsimp only
      rw [List.append_assoc, ← firstBytes_succ]
      exact ih (i + 1) (by omega)

/-- From the two header bytes on. -/
theorem statements_answer (p : CmdParser) (m : Modem) (ep : Bool)
    (loc : Locals) (a : Answer) (hrc : loc.rcCode = a.rcCode) :
    ∃ loc', Statements p
      ⟨{ m with
          responseLength := a.responseLength
          modemResponseBuff := a.responseBuff }, ep, .writeRc, loc⟩
      ⟨{ m with
          responseLength := a.responseLength
          modemResponseBuff := sealResponse loc.crc a
          isHwModemReadyToReceive := true
          hwCmdAvailable := false
          busy := true
          uartTx := m.uartTx
            ++ firstBytes (sealResponse loc.crc a) (a.responseLength + 3) },
        ep, .idle, loc'⟩ := by
  let header := responseHeader a
  have hloop := statements_responseCrc p
    { m with
      responseLength := a.responseLength
      modemResponseBuff := header
      isHwModemReadyToReceive := true
      hwCmdAvailable := false
      busy := true } ep loc.crc (a.responseLength + 2) 0 loc (Nat.zero_add _) rfl
  have hsend := statements_send p
    { m with
      responseLength := a.responseLength
      modemResponseBuff := sealResponse loc.crc a
      isHwModemReadyToReceive := true
      hwCmdAvailable := false
      busy := true } ep
    { loc with crc := xorLoop loc.crc header (a.responseLength + 2) } m.uartTx
    (a.responseLength + 3) 0 (Nat.zero_add _)
  have hempty : m.uartTx ++ firstBytes (sealResponse loc.crc a) 0 = m.uartTx :=
    List.append_nil _
  dsimp only at hsend
  rw [hempty] at hsend
  refine ⟨{ loc with crc := xorLoop loc.crc header (a.responseLength + 2) }, ?_⟩
  have hrest := hloop.trans (.head rfl hsend)
  rw [show header = setByte (setByte a.responseBuff 0 loc.rcCode) 1
    (UInt8.ofNat a.responseLength) by rw [hrc]; rfl] at hrest ⊢
  exact .head rfl (.head rfl (.head rfl (.head rfl (.head rfl hrest))))

/-- The checks of a command whose checksum was calculated and read. -/
theorem statements_checks (p : CmdParser) (m : Modem) (ep : Bool) (rc : UInt8)
    {n : Nat} {crc : UInt8} (hn : (m.modemReceivedBuff 1).toNat = n)
    (hcalc : xorLoop 0 m.modemReceivedBuff (n + 2) = crc) :
    ∃ loc' : Locals, loc'.crc = crc
      ∧ loc'.rcCode
        = (answerCmd p m.modemReceivedBuff m.modemResponseBuff).rcCode
      ∧ Statements p
        ⟨m, ep, .checkCrc,
          ⟨m.modemReceivedBuff 1, crc, crc, m.modemReceivedBuff (n + 2),
            m.modemReceivedBuff 0, rc⟩⟩
        ⟨{ m with
            responseLength := (answerCmd p m.modemReceivedBuff
              m.modemResponseBuff).responseLength
            modemResponseBuff := (answerCmd p m.modemReceivedBuff
              m.modemResponseBuff).responseBuff }, ep, .writeRc, loc'⟩ := by
  subst hn hcalc
  rw [answerCmd]
  by_cases hcrc : xorLoop 0 m.modemReceivedBuff
      ((m.modemReceivedBuff 1).toNat + 2)
      ≠ m.modemReceivedBuff ((m.modemReceivedBuff 1).toNat + 2)
  · rw [if_pos hcrc]
    exact ⟨_, rfl, rfl, .head (if_pos hcrc) (.refl _ _)⟩
  · rw [if_neg hcrc]
    by_cases hextra : m.modemReceivedBuff
        ((m.modemReceivedBuff 1).toNat + 3) ≠ 0xFF
        ∧ m.modemReceivedBuff 1 ≠ 0xFF
    · rw [if_pos hextra]
      exact ⟨_, rfl, rfl, .head (if_neg hcrc)
        (.head (if_pos hextra) (.refl _ _))⟩
    · rw [if_neg hextra]
      exact ⟨_, rfl, rfl, .head (if_neg hcrc)
        (.head (if_neg hextra) (.head rfl (.refl _ _)))⟩

/-- **UNINTERRUPTED, THE STATEMENTS COMPUTE `hwModemProcessCmd`.** -/
theorem statements_processCmd (p : CmdParser) (m : Modem) (ep : Bool)
    (loc : Locals) :
    ∃ loc', Statements p ⟨m, ep, .checkId, loc⟩
      ⟨(hwModemProcessCmd p m).1, ep, .idle, loc'⟩ := by
  by_cases hid : m.modemReceivedBuff 0 < 0xFF
  · rw [hwModemProcessCmd, if_pos hid]
    let n := (m.modemReceivedBuff 1).toNat
    let crc := xorLoop 0 m.modemReceivedBuff (n + 2)
    have hloop := statements_commandCrc p m ep (n + 2) 0
      { loc with cmdLength := m.modemReceivedBuff 1, crc := 0 }
      (Nat.zero_add _) rfl
    -- the checksum loop and the two reads after it
    have hread : Statements p ⟨m, ep, .checkId, loc⟩
        ⟨m, ep, .checkCrc,
          ⟨m.modemReceivedBuff 1, crc, crc, m.modemReceivedBuff (n + 2),
            m.modemReceivedBuff 0, loc.rcCode⟩⟩ :=
      .head (if_pos hid) (.head rfl (hloop.trans
        (.head rfl (.head rfl (.refl _ _)))))
    obtain ⟨loc1, hcrc, hrc, hchecks⟩ :=
      statements_checks p m ep loc.rcCode (rfl : _ = n) (rfl : _ = crc)
    obtain ⟨loc2, hanswer⟩ := statements_answer p m ep loc1 _ hrc
    rw [hcrc] at hanswer
    exact ⟨loc2, hread.trans (hchecks.trans hanswer)⟩
  · rw [hwModemProcessCmd, if_neg hid]
    exact ⟨loc, .head (if_neg hid)
      (.head rfl (.head rfl (.head rfl (.refl _ _))))⟩

/-! ## What the two sides share -/

/-- The shared state. -/
structure Line where
  received : Nat → UInt8
  ready : Bool
  available : Bool
  busy : Bool
  rx : Bool

/-- How far an invocation is with the flags. -/
inductive Phase where
  /-- No invocation, or one that only has its answer left to send. -/
  | resting
  | reading
  /-- Between the statements that set `is_hw_modem_ready_to_receive` and clear
      `hw_cmd_available`. -/
  | reopened
  /-- Between those that clear `hw_cmd_available` and raise BUSY. -/
  | cleared
  deriving DecidableEq, Repr

def Pc.phase : Pc → Phase
  | .idle | .responseCrc _ | .storeCrc | .send _ => .resting
  | .clearAvailable _ => .reopened
  | .raiseBusy _ => .cleared
  | _ => .reading

def Machine.line (s : Machine) : Line :=
  ⟨s.modem.modemReceivedBuff, s.modem.isHwModemReadyToReceive,
    s.modem.hwCmdAvailable, s.modem.busy, s.modem.uartRxEnabled⟩

/-- What a step other than an invocation does to the shared state. -/
inductive Turn : Line → Phase → Line → Phase → Prop where
  | quiet {l : Line} {ph : Phase} : Turn l ph l ph
  /-- A reception opens; `gaveUp` tells that the receiver stayed as it was. -/
  | opened {l : Line} {ph : Phase} (gaveUp : Bool) (buff : Nat → UInt8)
      (h : l.ready = true) :
      Turn l ph ⟨buff, false, l.available, gaveUp && l.busy, !gaveUp || l.rx⟩ ph
  | completed {l : Line} {ph : Phase} (h : l.ready = false) :
      Turn l ph { l with rx := false, available := true } ph
  | received {l : Line} {ph : Phase} (buff : Nat → UInt8) (h : l.rx = true) :
      Turn l ph { l with received := buff } ph
  | reopened {l : Line} : Turn l .reading { l with ready := true } .reopened
  | cleared {l : Line} : Turn l .reopened { l with available := false } .cleared
  | raised {l : Line} : Turn l .cleared { l with busy := true } .resting

/-- A statement moves only its own flag. -/
theorem statement_turn {p : CmdParser} {s t : Machine}
    (h : statement p s = some t) :
    Turn s.line s.pc.phase t.line t.pc.phase := by
  obtain ⟨m, ep, pc, loc⟩ := s
  cases pc with
  | idle => cases h
  | setReady answers =>
      cases h
      exact .reopened
  | clearAvailable answers =>
      cases h
      exact .cleared
  | raiseBusy answers =>
      cases h
      cases answers with
      | true => exact .raised
      | false => exact .raised
  | checkId | commandCrc | checkCrc | checkExtra | responseCrc | send =>
      -- the statements with a condition
      rcases branch_cases h with ⟨_, rfl⟩ | ⟨_, rfl⟩
      · exact .quiet
      · exact .quiet
  | readLength | readCrc | readId | parse | writeRc | writeLength | storeCrc =>
      cases h
      exact .quiet

/-- The three things the handler of the COMMAND line can do. -/
theorem wakeupLineIrqHandler_cases (rxReady irqUpdate : Bool) (m : Modem) :
    (m.isHwModemReadyToReceive = true ∧ m.command = false
        ∧ wakeupLineIrqHandler rxReady irqUpdate m
          = { hwModemStartReception rxReady irqUpdate m with lpMode := .disable })
      ∨ (m.isHwModemReadyToReceive = false ∧ m.command = true
        ∧ wakeupLineIrqHandler rxReady irqUpdate m
          = { m with
              uartRxEnabled := false
              hwCmdAvailable := true
              mainLoopSem := true
              lpMode := .disableOnce })
      ∨ (m.isHwModemReadyToReceive = m.command
        ∧ wakeupLineIrqHandler rxReady irqUpdate m = m) := by
  rw [wakeupLineIrqHandler]
  cases hr : m.isHwModemReadyToReceive with
  | true =>
      cases hc : m.command with
      | true =>
          right; right
          simp [hr]
      | false =>
          left
          refine ⟨rfl, rfl, ?_⟩
          rw [hwModemStartReception]
          cases rxReady && !irqUpdate with
          | true => simp [hc]
          | false => simp [hc]
  | false =>
      cases hc : m.command with
      | true =>
          right; left
          simp [hr, hc]
      | false =>
          right; right
          simp [hc]

/-- Starting a reception, on the shared state. -/
theorem startReception_turn (rxReady irqUpdate : Bool) {m : Modem}
    (h : m.isHwModemReadyToReceive = true) (ep : Bool) (pc : Pc)
    (loc : Locals) (lp : LpMode) :
    Turn (Machine.mk m ep pc loc).line pc.phase
      (Machine.mk { hwModemStartReception rxReady irqUpdate m with lpMode := lp }
        false pc loc).line pc.phase := by
  rw [hwModemStartReception]
  cases rxReady && !irqUpdate with
  | true => exact .opened true _ h
  | false => exact .opened false _ h

/-- A UART interrupt changes only the receive buffer and its length. -/
theorem foldl_storeReceivedByte_line (cs : List UInt8) (m : Modem) (ep : Bool)
    (pc : Pc) (loc : Locals) :
    ∃ buff, (Machine.mk (cs.foldl storeReceivedByte m) ep pc loc).line
      = { (Machine.mk m ep pc loc).line with received := buff } := by
  induction cs generalizing m with
  | nil => exact ⟨m.modemReceivedBuff, rfl⟩
  | cons c cs ih =>
      obtain ⟨buff, hbuff⟩ := ih (storeReceivedByte m c)
      refine ⟨buff, ?_⟩
      rw [List.foldl_cons, hbuff, storeReceivedByte]
      by_cases hfull : m.receivedLength = hwModemRxBuffMaxLength
      · rw [if_pos hfull]
      · rw [if_neg hfull]
        rfl

theorem uartIrq_line (u : UartIrq) (m : Modem) (ep : Bool) (pc : Pc)
    (loc : Locals) :
    ∃ buff, (Machine.mk (uartIrqRxCallbackHandler u m) ep pc loc).line
      = { (Machine.mk m ep pc loc).line with received := buff } := by
  rw [uartIrqRxCallbackHandler]
  cases u.irqUpdate with
  | false => exact ⟨m.modemReceivedBuff, rfl⟩
  | true =>
      cases u.rxReady with
      | false => exact ⟨m.modemReceivedBuff, rfl⟩
      | true => exact foldl_storeReceivedByte_line u.fifo m ep pc loc

/-- **EVERY STEP IS A TURN**, an invocation apart. -/
theorem step_turn {p : CmdParser} {s t : Machine} {e : Event}
    (he : e ≠ .invoke) (h : step p s e = some t) :
    Turn s.line s.pc.phase t.line t.pc.phase := by
  cases e with
  | commandLine level =>
      cases h
      exact .quiet
  | wakeup rxReady irqUpdate =>
      obtain ⟨_, rfl⟩ := Option.ite_some_none_eq_some.mp h
      rcases wakeupLineIrqHandler_cases rxReady irqUpdate s.modem with
        ⟨hr, _, hm⟩ | ⟨hr, _, hm⟩ | ⟨_, hm⟩
      · rw [hm]
        exact startReception_turn rxReady irqUpdate hr s.edgePending s.pc
          s.loc .disable
      · rw [hm]
        exact .completed hr
      · rw [hm]
        exact .quiet
  | uart u =>
      obtain ⟨hrx, rfl⟩ := Option.ite_some_none_eq_some.mp h
      obtain ⟨buff, hbuff⟩ := uartIrq_line u s.modem s.edgePending s.pc s.loc
      show Turn s.line s.pc.phase (Machine.mk
        (uartIrqRxCallbackHandler u s.modem) s.edgePending s.pc s.loc).line _
      rw [hbuff]
      exact .received buff hrx
  | invoke => exact absurd rfl he
  | statement => exact statement_turn h

/-- What an invocation does. -/
theorem invoke_spec {p : CmdParser} {s t : Machine}
    (h : step p s .invoke = some t) :
    s.pc = .idle ∧ s.modem.hwCmdAvailable = true ∧ t.line = s.line
      ∧ t.pc = .checkId := by
  obtain ⟨⟨hpc, havailable⟩, rfl⟩ := Option.ite_some_none_eq_some.mp h
  exact ⟨hpc, havailable, rfl, rfl⟩

/-! ## Invariants of the flags -/

/-- What the flags say in each phase. -/
structure Inv (l : Line) (ph : Phase) : Prop where
  reading : ph = .reading →
    l.ready = false ∧ l.rx = false ∧ l.available = true
  waiting : ph = .resting ∨ ph = .cleared → l.available = true →
    l.ready = false ∧ l.rx = false
  busy : l.busy = false →
    (l.ready = false ∧ (l.rx = true ∨ l.available = true))
      ∨ ph = .reopened ∨ ph = .cleared

theorem inv_initial : Inv initial.line initial.pc.phase where
  reading := fun h => by cases h
  waiting := fun _ h => by cases h
  busy := fun h => by cases h

/-- Turns keep the flags right. -/
theorem Turn.inv {l l' : Line} {ph ph' : Phase} (h : Turn l ph l' ph')
    (hinv : Inv l ph) : Inv l' ph' := by
  cases h with
  | quiet => exact hinv
  | opened gaveUp buff hr =>
      -- `ready` was set, so no invocation reads and no command waits
      refine ⟨?_, ?_, ?_⟩
      · intro hph
        exact absurd (hinv.reading hph).1 (by simp [hr])
      · intro hph ha
        exact absurd (hinv.waiting hph ha).1 (by simp [hr])
      · intro hb
        cases gaveUp with
        | true =>
            rcases hinv.busy hb with ⟨hready, _⟩ | hph
            · exact absurd hready (by simp [hr])
            · exact Or.inr hph
        | false => exact Or.inl ⟨rfl, Or.inl rfl⟩
  | completed hr =>
      refine ⟨?_, ?_, ?_⟩
      · intro _
        exact ⟨hr, rfl, rfl⟩
      · intro _ _
        exact ⟨hr, rfl⟩
      · intro _
        exact Or.inl ⟨hr, Or.inr rfl⟩
  | received => exact ⟨hinv.reading, hinv.waiting, hinv.busy⟩
  | reopened =>
      exact ⟨(nomatch ·), fun h => by simp at h, fun _ => Or.inr (Or.inl rfl)⟩
  | cleared =>
      exact ⟨(nomatch ·), fun _ => (nomatch ·), fun _ => Or.inr (Or.inr rfl)⟩
  | raised =>
      exact ⟨(nomatch ·), fun _ => hinv.waiting (Or.inr rfl), (nomatch ·)⟩

/-- So does every step. -/
theorem step_inv {p : CmdParser} {s t : Machine} {e : Event}
    (hinv : Inv s.line s.pc.phase) (h : step p s e = some t) :
    Inv t.line t.pc.phase := by
  by_cases he : e = .invoke
  · subst he
    obtain ⟨hpc, ha, hline, htpc⟩ := invoke_spec h
    rw [hpc] at hinv
    obtain ⟨hready, hrx⟩ := hinv.waiting (Or.inl rfl) ha
    rw [hline, htpc]
    exact ⟨fun _ => ⟨hready, hrx, ha⟩, fun _ _ => ⟨hready, hrx⟩,
      fun _ => Or.inl ⟨hready, Or.inr ha⟩⟩
  · exact (step_turn he h).inv hinv

theorem run_inv {p : CmdParser} {s : Machine} {es : List Event}
    (h : run (step p) initial es = some s) : Inv s.line s.pc.phase :=
  run_invariant (fun s => Inv s.line s.pc.phase) (fun _ => True)
    (fun _ _ _ _ hinv he => step_inv hinv he) (fun _ _ => trivial)
    inv_initial h

/-! ## A completed reception waits -/

/-- The handler, run now, completes a reception. -/
def Completes (s : Machine) (e : Event) : Prop :=
  (∃ rxReady irqUpdate, e = .wakeup rxReady irqUpdate)
    ∧ s.modem.isHwModemReadyToReceive = false ∧ s.modem.command = true

/-- An invocation is before its `hw_cmd_available = false`. -/
def InProgress (s : Machine) : Prop :=
  s.pc.phase = .reading ∨ s.pc.phase = .reopened

/-- A received command `buff` waits for an invocation. -/
structure Waiting (buff : Nat → UInt8) (l : Line) (ph : Phase) : Prop where
  phase : ph = .resting ∨ ph = .cleared
  available : l.available = true
  ready : l.ready = false
  rx : l.rx = false
  received : l.received = buff

theorem Turn.waiting {buff : Nat → UInt8} {l l' : Line} {ph ph' : Phase}
    (h : Turn l ph l' ph') (hw : Waiting buff l ph) : Waiting buff l' ph' := by
  cases h with
  | quiet => exact hw
  | opened _ _ hr => exact absurd hw.ready (by simp [hr])
  | completed hr => exact ⟨hw.phase, rfl, hr, rfl, hw.received⟩
  | received _ hrx => exact absurd hw.rx (by simp [hrx])
  | reopened => exact absurd hw.phase (by simp)
  | cleared => exact absurd hw.phase (by simp)
  | raised => exact ⟨Or.inl rfl, hw.available, hw.ready, hw.rx, hw.received⟩

/-- What a completing step does. -/
theorem completes_spec {p : CmdParser} {s t : Machine} {e : Event}
    (hc : Completes s e) (h : step p s e = some t) :
    t.line = { s.line with rx := false, available := true } ∧ t.pc = s.pc := by
  obtain ⟨⟨rxReady, irqUpdate, he⟩, hready, hcommand⟩ := hc
  subst he
  obtain ⟨_, rfl⟩ := Option.ite_some_none_eq_some.mp h
  rcases wakeupLineIrqHandler_cases rxReady irqUpdate s.modem with
    ⟨hr, _, _⟩ | ⟨_, _, hm⟩ | ⟨hr, _⟩
  · exact absurd hr (by simp [hready])
  · rw [hm]
    exact ⟨rfl, rfl⟩
  · exact absurd hr (by simp [hready, hcommand])

/-- A completion outside an invocation's reading part leaves a waiting
    command. -/
theorem completes_waiting {p : CmdParser} {s t : Machine} {e : Event}
    (hc : Completes s e) (hfree : ¬ InProgress s) (h : step p s e = some t) :
    Waiting s.modem.modemReceivedBuff t.line t.pc.phase := by
  obtain ⟨hline, hpc⟩ := completes_spec hc h
  have hphase : s.pc.phase = .resting ∨ s.pc.phase = .cleared := by
    rw [InProgress] at hfree
    cases hph : s.pc.phase with
    | resting => exact Or.inl rfl
    | cleared => exact Or.inr rfl
    | reading => exact absurd (Or.inl hph) hfree
    | reopened => exact absurd (Or.inr hph) hfree
  rw [hline, hpc]
  exact ⟨hphase, rfl, hc.2.1, rfl, rfl⟩

/-- It waits until an invocation. -/
theorem run_waiting {p : CmdParser} {buff : Nat → UInt8} {s t : Machine}
    {es : List Event} (hes : ∀ e ∈ es, e ≠ .invoke)
    (hw : Waiting buff s.line s.pc.phase) (h : run (step p) s es = some t) :
    Waiting buff t.line t.pc.phase :=
  run_invariant (fun s => Waiting buff s.line s.pc.phase) (· ≠ .invoke)
    (fun _ _ _ he hw h => (step_turn he h).waiting hw) hes hw h

/-! ## The frame an invocation executes -/

/-- What the local variables hold at each statement when `buff` is executed. -/
def Follows (buff : Nat → UInt8) (l : Locals) : Pc → Prop
  | .readLength => buff 0 ≠ 0xFF
  | .commandCrc i =>
      buff 0 ≠ 0xFF ∧ l.cmdLength = buff 1 ∧ i ≤ (buff 1).toNat + 2
        ∧ l.crc = xorLoop 0 buff i
  | .readCrc =>
      buff 0 ≠ 0xFF ∧ l.cmdLength = buff 1
        ∧ l.calculatedCrc = xorLoop 0 buff ((buff 1).toNat + 2)
  | .readId =>
      buff 0 ≠ 0xFF ∧ l.cmdLength = buff 1
        ∧ l.calculatedCrc = xorLoop 0 buff ((buff 1).toNat + 2)
        ∧ l.cmdCrc = buff ((buff 1).toNat + 2)
  | .checkCrc =>
      buff 0 ≠ 0xFF ∧ l.cmdLength = buff 1
        ∧ l.calculatedCrc = xorLoop 0 buff ((buff 1).toNat + 2)
        ∧ l.cmdCrc = buff ((buff 1).toNat + 2) ∧ l.cmdId = buff 0
  | .checkExtra =>
      buff 0 ≠ 0xFF ∧ l.cmdLength = buff 1 ∧ l.cmdId = buff 0
        ∧ xorLoop 0 buff ((buff 1).toNat + 2) = buff ((buff 1).toNat + 2)
  | .parse => l.cmdLength = buff 1 ∧ l.cmdId = buff 0 ∧ Accepts buff
  | _ => True

/-- The receive buffer holds `buff` and nobody can change it. -/
structure Held (buff : Nat → UInt8) (l : Line) : Prop where
  ready : l.ready = false
  rx : l.rx = false
  received : l.received = buff

theorem Turn.held {buff : Nat → UInt8} {l l' : Line} {ph ph' : Phase}
    (h : Turn l ph l' ph') (hreading : ph' = .reading) (hh : Held buff l) :
    Held buff l' := by
  cases h with
  | quiet => exact hh
  | opened _ _ hr => exact absurd hh.ready (by simp [hr])
  | completed hr => exact ⟨hr, rfl, hh.received⟩
  | received _ hrx => exact absurd hh.rx (by simp [hrx])
  | reopened | cleared | raised => cases hreading

/-- Only an invocation leads to the statements that read. -/
theorem Turn.reading {l l' : Line} {ph : Phase} (h : Turn l ph l' .reading) :
    ph = .reading := by
  cases h with
  | quiet | opened | completed | received => rfl

/-- An invocation, as long as it reads, executes `buff`. -/
structure Executing (buff : Nat → UInt8) (s : Machine) : Prop where
  held : s.pc.phase = .reading → Held buff s.line
  follows : Follows buff s.loc s.pc

/-- Statements keep to the buffer. -/
theorem statement_follows {p : CmdParser} {s t : Machine}
    (hf : Follows s.modem.modemReceivedBuff s.loc s.pc)
    (h : statement p s = some t) :
    Follows s.modem.modemReceivedBuff t.loc t.pc := by
  obtain ⟨m, ep, pc, loc⟩ := s
  cases pc with
  | idle => cases h
  | checkId =>
      rcases branch_cases h with ⟨hid, rfl⟩ | ⟨_, rfl⟩
      · exact (lt_blank_iff _).mp hid
      · trivial
  | readLength =>
      cases h
      exact ⟨hf, rfl, Nat.zero_le _, rfl⟩
  | commandCrc i =>
      obtain ⟨hid, hlen, hi, hcrc⟩ := hf
      dsimp only at hid hlen hi hcrc
      rcases branch_cases h with ⟨hlt, rfl⟩ | ⟨hge, rfl⟩
      · dsimp only at hlt
        rw [hlen] at hlt
        refine ⟨hid, hlen, hlt, ?_⟩
        show loc.crc ^^^ m.modemReceivedBuff i = _
        rw [hcrc]
        rfl
      · dsimp only at hge
        rw [hlen] at hge
        refine ⟨hid, hlen, ?_⟩
        show loc.crc = _
        rw [hcrc, Nat.le_antisymm hi (Nat.le_of_not_lt hge)]
  | readCrc =>
      obtain ⟨hid, hlen, hcalc⟩ := hf
      cases h
      refine ⟨hid, hlen, hcalc, ?_⟩
      show m.modemReceivedBuff (loc.cmdLength.toNat + 2) = _
      rw [show loc.cmdLength = m.modemReceivedBuff 1 from hlen]
  | readId =>
      obtain ⟨hid, hlen, hcalc, hcrc⟩ := hf
      cases h
      exact ⟨hid, hlen, hcalc, hcrc, rfl⟩
  | checkCrc =>
      obtain ⟨hid, hlen, hcalc, hcrc, hcode⟩ := hf
      rcases branch_cases h with ⟨_, rfl⟩ | ⟨heq, rfl⟩
      · trivial
      · refine ⟨hid, hlen, hcode, ?_⟩
        rw [← hcalc, ← hcrc]
        exact Decidable.of_not_not heq
  | checkExtra =>
      obtain ⟨hid, hlen, hcode, hcrc⟩ := hf
      dsimp only at hlen
      rcases branch_cases h with ⟨_, rfl⟩ | ⟨hblank, rfl⟩
      · trivial
      · dsimp only at hblank
        rw [hlen] at hblank
        refine ⟨hlen, hcode, hid, hcrc, ?_⟩
        by_cases hnext : m.modemReceivedBuff
            ((m.modemReceivedBuff 1).toNat + 3) = 0xFF
        · exact Or.inl hnext
        · exact Or.inr (Decidable.of_not_not fun hmax => hblank ⟨hnext, hmax⟩)
  | raiseBusy answers =>
      cases h
      cases answers with
      | true => trivial
      | false => trivial
  | responseCrc | send =>
      rcases branch_cases h with ⟨_, rfl⟩ | ⟨_, rfl⟩
      · trivial
      · trivial
  | parse | writeRc | writeLength | setReady | clearAvailable | storeCrc =>
      cases h
      trivial

/-- No other statement asks anything of the local variables. -/
theorem follows_of_not_reading {buff : Nat → UInt8} {l : Locals} {pc : Pc}
    (h : pc.phase ≠ .reading) : Follows buff l pc := by
  cases pc with
  | idle | clearAvailable | raiseBusy | responseCrc | storeCrc | send => trivial
  | checkId | readLength | commandCrc | readCrc | readId | checkCrc
  | checkExtra | parse | writeRc | writeLength | setReady =>
      exact absurd rfl h

/-- Interrupts and the host leave the main loop where it is. -/
theorem step_frame {p : CmdParser} {s t : Machine} {e : Event}
    (h1 : e ≠ .invoke) (h2 : e ≠ .statement) (h : step p s e = some t) :
    t.pc = s.pc ∧ t.loc = s.loc := by
  cases e with
  | commandLine level =>
      cases h
      exact ⟨rfl, rfl⟩
  | wakeup | uart =>
      obtain ⟨_, rfl⟩ := Option.ite_some_none_eq_some.mp h
      exact ⟨rfl, rfl⟩
  | invoke => exact absurd rfl h1
  | statement => exact absurd rfl h2

/-- Steps other than an invocation go on executing the same buffer. -/
theorem step_executing {p : CmdParser} {buff : Nat → UInt8} {s t : Machine}
    {e : Event} (he : e ≠ .invoke) (hx : Executing buff s)
    (h : step p s e = some t) : Executing buff t := by
  have hturn := step_turn he h
  constructor
  · intro ht
    rw [ht] at hturn
    exact hturn.held rfl (hx.held hturn.reading)
  · by_cases hstat : e = .statement
    · subst hstat
      by_cases hs : s.pc.phase = .reading
      · -- nobody changes the buffer under the reading statements
        have hbuff : s.modem.modemReceivedBuff = buff := (hx.held hs).received
        have hf := hx.follows
        rw [← hbuff] at hf ⊢
        exact statement_follows hf h
      · refine follows_of_not_reading ?_
        intro ht
        rw [ht] at hturn
        exact hs hturn.reading
    · obtain ⟨hpc, hloc⟩ := step_frame he hstat h
      rw [hpc, hloc]
      exact hx.follows

/-- The waiting command is what an invocation executes. -/
theorem invoke_executing {p : CmdParser} {buff : Nat → UInt8} {s t : Machine}
    (hw : Waiting buff s.line s.pc.phase) (h : step p s .invoke = some t) :
    Executing buff t := by
  obtain ⟨_, _, hline, hpc⟩ := invoke_spec h
  constructor
  · intro _
    rw [hline]
    exact ⟨hw.ready, hw.rx, hw.received⟩
  · rw [hpc]
    trivial

/-! ## Where an executed frame comes from -/

/-- The handler, run now outside the reading part of an invocation, completes a
    reception and makes it available. -/
def MakesAvailable (s : Machine) (e : Event) : Prop :=
  Completes s e ∧ ¬ InProgress s ∧ s.modem.hwCmdAvailable = false

/-- The run made the buffer `buff` available and nobody was invoked since. -/
def MadeAvailable (p : CmdParser) (es : List Event) (buff : Nat → UInt8) :
    Prop :=
  ∃ es1 e es2 s, es = es1 ++ e :: es2 ∧ run (step p) initial es1 = some s
    ∧ MakesAvailable s e ∧ (∀ f ∈ es2, f ≠ .invoke)
    ∧ s.modem.modemReceivedBuff = buff

/-- The last invocation of the run was for the buffer `buff`. -/
def InvokedFor (p : CmdParser) (es : List Event) (buff : Nat → UInt8) : Prop :=
  ∃ es1 es2, es = es1 ++ .invoke :: es2 ∧ MadeAvailable p es1 buff
    ∧ ∀ f ∈ es2, f ≠ .invoke

theorem MadeAvailable.concat {p : CmdParser} {es : List Event}
    {buff : Nat → UInt8} {e : Event} (h : MadeAvailable p es buff)
    (he : e ≠ .invoke) : MadeAvailable p (es ++ [e]) buff := by
  obtain ⟨es1, f, es2, s, hes, hrun, hmakes, hfree, hbuff⟩ := h
  refine ⟨es1, f, es2 ++ [e], s, ?_, hrun, hmakes, ?_, hbuff⟩
  · rw [hes, List.append_assoc, List.cons_append]
  · exact List.forall_mem_append.mpr ⟨hfree, List.forall_mem_singleton.mpr he⟩

theorem InvokedFor.concat {p : CmdParser} {es : List Event}
    {buff : Nat → UInt8} {e : Event} (h : InvokedFor p es buff)
    (he : e ≠ .invoke) : InvokedFor p (es ++ [e]) buff := by
  obtain ⟨es1, es2, hes, hmade, hfree⟩ := h
  refine ⟨es1, es2 ++ [e], ?_, hmade, ?_⟩
  · rw [hes, List.append_assoc, List.cons_append]
  · exact List.forall_mem_append.mpr ⟨hfree, List.forall_mem_singleton.mpr he⟩

/-- What a run says about the command that waits and the one that is
    executed. -/
structure Origin (p : CmdParser) (es : List Event) (s : Machine) : Prop where
  inv : Inv s.line s.pc.phase
  waiting : ¬ InProgress s → s.modem.hwCmdAvailable = true →
    ∃ buff, MadeAvailable p es buff ∧ Waiting buff s.line s.pc.phase
  executing : s.pc.phase = .reading →
    ∃ buff, InvokedFor p es buff ∧ Executing buff s

/-- An invocation leaves its reading part with the flag cleared. -/
theorem Turn.leaves {l l' : Line} {ph ph' : Phase} (h : Turn l ph l' ph')
    (hs : ph = .reading ∨ ph = .reopened)
    (ht : ¬ (ph' = .reading ∨ ph' = .reopened)) : l'.available = false := by
  cases h with
  | quiet | opened | completed | received => exact absurd hs ht
  | reopened => exact absurd (Or.inr rfl) ht
  | cleared => rfl
  | raised => simp at hs

theorem hwModemStartReception_available (rxReady irqUpdate : Bool) (m : Modem) :
    (hwModemStartReception rxReady irqUpdate m).hwCmdAvailable
      = m.hwCmdAvailable := by
  rw [hwModemStartReception]
  cases rxReady && !irqUpdate with
  | true => rfl
  | false => rfl

/-- Statements do not set the flag. -/
theorem statement_available {p : CmdParser} {s t : Machine}
    (h : statement p s = some t) (ht : t.modem.hwCmdAvailable = true) :
    s.modem.hwCmdAvailable = true := by
  obtain ⟨m, ep, pc, loc⟩ := s
  cases pc with
  | idle => cases h
  | clearAvailable answers =>
      cases h
      cases ht
  | checkId | commandCrc | checkCrc | checkExtra | responseCrc | send =>
      rcases branch_cases h with ⟨_, rfl⟩ | ⟨_, rfl⟩
      · exact ht
      · exact ht
  | readLength | readCrc | readId | parse | writeRc | writeLength | storeCrc
  | setReady | raiseBusy =>
      cases h
      exact ht

/-- Only a completion sets the flag. -/
theorem step_sets {p : CmdParser} {s t : Machine} {e : Event}
    (h : step p s e = some t) (hs : s.modem.hwCmdAvailable = false)
    (ht : t.modem.hwCmdAvailable = true) : Completes s e := by
  have hne : t.modem.hwCmdAvailable ≠ s.modem.hwCmdAvailable := by
    simp [hs, ht]
  cases e with
  | commandLine level =>
      cases h
      exact absurd rfl hne
  | wakeup rxReady irqUpdate =>
      obtain ⟨_, rfl⟩ := Option.ite_some_none_eq_some.mp h
      rcases wakeupLineIrqHandler_cases rxReady irqUpdate s.modem with
        ⟨hr, _, hm⟩ | ⟨hr, hc, _⟩ | ⟨_, hm⟩
      · refine absurd ?_ hne
        dsimp only
        rw [hm]
        exact hwModemStartReception_available rxReady irqUpdate s.modem
      · exact ⟨⟨rxReady, irqUpdate, rfl⟩, hr, hc⟩
      · exact absurd (congrArg Modem.hwCmdAvailable hm) hne
  | uart u =>
      obtain ⟨_, rfl⟩ := Option.ite_some_none_eq_some.mp h
      obtain ⟨buff, hbuff⟩ := uartIrq_line u s.modem s.edgePending s.pc s.loc
      exact absurd (congrArg Line.available hbuff) hne
  | invoke =>
      obtain ⟨_, _, hline, _⟩ := invoke_spec h
      exact absurd (congrArg Line.available hline) hne
  | statement =>
      exact absurd (statement_available h ht) (by simp [hs])

/-- One step more of a run, for `Origin`. -/
theorem origin_step {p : CmdParser} {es : List Event} {s t : Machine}
    {e : Event} (hrun : run (step p) initial es = some s) (ho : Origin p es s)
    (h : step p s e = some t) : Origin p (es ++ [e]) t := by
  refine ⟨step_inv ho.inv h, ?_, ?_⟩
  · intro hfree ha
    by_cases he : e = .invoke
    · subst he
      obtain ⟨_, _, _, hpc⟩ := invoke_spec h
      exact absurd (Or.inl (congrArg Pc.phase hpc)) hfree
    · have hturn := step_turn he h
      by_cases hs : InProgress s
      · -- an invocation that was reading has cleared the flag
        exact absurd (ha.symm.trans (hturn.leaves hs hfree)) (by simp)
      · cases hsa : s.modem.hwCmdAvailable with
        | true =>
            obtain ⟨buff, hmade, hw⟩ := ho.waiting hs hsa
            exact ⟨buff, hmade.concat he, hturn.waiting hw⟩
        | false =>
            -- this step is the completion that sets the flag
            have hc := step_sets h hsa ha
            refine ⟨s.modem.modemReceivedBuff, ?_, completes_waiting hc hs h⟩
            exact ⟨es, e, [], s, rfl, hrun, ⟨hc, hs, hsa⟩, by simp, rfl⟩
  · intro hreading
    by_cases he : e = .invoke
    · subst he
      obtain ⟨hpc, ha, _, _⟩ := invoke_spec h
      -- the command that waited is now executed
      have hs : ¬ InProgress s := by
        rw [InProgress, hpc]
        simp [Pc.phase]
      obtain ⟨buff, hmade, hw⟩ := ho.waiting hs ha
      exact ⟨buff, ⟨es, [], rfl, hmade, by simp⟩, invoke_executing hw h⟩
    · have hturn := step_turn he h
      rw [hreading] at hturn
      obtain ⟨buff, hfor, hx⟩ := ho.executing hturn.reading
      exact ⟨buff, hfor.concat he, step_executing he hx h⟩

theorem run_origin {p : CmdParser} {es : List Event} {s : Machine}
    (h : run (step p) initial es = some s) : Origin p es s := by
  refine run_history (Origin p) ?_ ?_ h
  · refine ⟨inv_initial, ?_, ?_⟩
    · intro _ ha
      cases ha
    · intro hreading
      cases hreading
  · intro es s e t hrun ho he
    exact origin_step hrun ho he

/-! ## The handshake -/

/-- What the handshake promises about a run and the state it reached. -/
structure CommandsKept (p : CmdParser) (es : List Event) (s : Machine) :
    Prop where
  /-- A reception completed outside the reading part of an invocation stays
      available until an invocation that starts after it. -/
  noneLost : ∀ es1 e es2 s1, es = es1 ++ e :: es2 →
    run (step p) initial es1 = some s1 → Completes s1 e → ¬ InProgress s1 →
    (∀ f ∈ es2, f ≠ .invoke) → s.modem.hwCmdAvailable = true
  /-- The parser is called with the frame whose completion led to the
      invocation. -/
  ownFrame : s.pc = .parse → ∃ buff, InvokedFor p es buff ∧ Accepts buff
    ∧ s.parserInput = ⟨buff 0, buff 1, fun i => buff (2 + i)⟩
  /-- BUSY at 0: a reception is open, or completed and not yet processed, or
      the invocation has reopened the receiver and not yet raised BUSY. -/
  busyHonest : s.modem.busy = false →
    (s.modem.isHwModemReadyToReceive = false
      ∧ (s.modem.uartRxEnabled = true ∨ s.modem.hwCmdAvailable = true))
    ∨ s.pc.phase = .reopened ∨ s.pc.phase = .cleared

/-- **NO COMMAND IS LOST OR MIXED UP**, whatever comes between the statements,
    unless it is completed before the running invocation has cleared
    `hw_cmd_available`. -/
theorem commands_kept (p : CmdParser) (es : List Event) (s : Machine)
    (h : run (step p) initial es = some s) : CommandsKept p es s := by
  refine ⟨?_, ?_, (run_inv h).busy⟩
  · intro es1 e es2 s1 hes hrun1 hc hfree hnone
    rw [hes] at h
    obtain ⟨u, hu, hafter⟩ := run_append_some h
    cases hrun1.symm.trans hu
    obtain ⟨v, hv, hrest⟩ := run_cons_some hafter
    exact (run_waiting hnone (completes_waiting hc hfree hv) hrest).available
  · intro hpc
    have ho := run_origin h
    obtain ⟨buff, hfor, hx⟩ := ho.executing (by rw [hpc]; rfl)
    have hbuff : s.modem.modemReceivedBuff = buff :=
      (hx.held (by rw [hpc]; rfl)).received
    have hf := hx.follows
    rw [hpc] at hf
    obtain ⟨hlen, hid, haccepts⟩ := hf
    refine ⟨buff, hfor, haccepts, ?_⟩
    rw [Machine.parserInput, hlen, hid, hbuff]

/-- The empty command `0x10`, up to the statement that clears
    `hw_cmd_available`. -/
def firstCommand : List Event :=
  [.commandLine false, .wakeup false true,
    .uart ⟨true, true, [0x10, 0x00, 0x10]⟩, .commandLine true,
    .wakeup false true, .invoke] ++ List.replicate 13 .statement

/-- A second command, up to the interrupt that completes its reception. -/
def secondCommand : List Event :=
  [.commandLine false, .wakeup false true,
    .uart ⟨true, true, [0x11, 0x00, 0x11]⟩, .commandLine true]

theorem commands_kept_firstCommand :
    CommandsKept silentParser firstCommand
      ((run (step silentParser) initial firstCommand).get (by decide)) :=
  commands_kept silentParser firstCommand _ (Option.some_get _).symm

/-- A second command received before the first invocation clears
    `hw_cmd_available` is never executed, and BUSY is at 0 with no reception
    open just before. -/
theorem second_command_lost :
    (∃ s1 s2, run (step silentParser) initial (firstCommand ++ secondCommand)
        = some s1
      ∧ Completes s1 (.wakeup false true)
      ∧ run (step silentParser) initial (firstCommand ++ secondCommand
          ++ [.wakeup false true, .statement]) = some s2
      ∧ s2.modem.hwCmdAvailable = false)
    ∧ ∃ s, run (step silentParser) initial firstCommand = some s
      ∧ s.modem.busy = false ∧ s.modem.isHwModemReadyToReceive = true := by
  refine ⟨⟨_, _, (Option.some_get (by decide)).symm,
    ⟨⟨false, true, rfl⟩, by decide, by decide⟩,
    (Option.some_get (by decide)).symm, by decide⟩,
    _, (Option.some_get (by decide)).symm, by decide, by decide⟩

end HwModemHandshake
