import UspZephyr.HwModemHandshakeProofs

/-! # A conversation with the hardware modem

    A host that follows the two lines lowers COMMAND, waits for BUSY at 0, sends
    a command frame, raises COMMAND when the modem has taken its bytes, waits for
    BUSY at 1 and reads the response up to the length in its second byte.  The
    interrupts and the statements of `hw_modem_process_cmd` come in between as
    they like; in particular the host may start again before the function has
    returned.

    Such a host talks to a server that answers its commands one by one, `serve`:
    that is `responses_served`.  `Phase` says where an exchange can be, and there is
    one lemma for each event. -/

namespace HwModemConversation

open ByteMemory XorFrame HwModem StepRun
open HwModemHandshake (Machine Statements)

/-! ## The server -/

/-- A command the host may send: its identifier is not the filling of the receive
    buffer. -/
structure Command where
  frame : Frame
  id_ne : frame.id ≠ 0xFF

/-- `modem_received_buff` after a reception of `bs`. -/
def receivedBuff (bs : List UInt8) : Nat → UInt8 :=
  fun i => if i < hwModemRxBuffMaxLength then padded bs i else 0

/-- What the parser makes of a command when the response buffer holds
    `response`. -/
def Command.parsed (p : CmdParser) (c : Command) (response : Nat → UInt8) :
    CmdResponse :=
  p.parseCmd
    ⟨c.frame.id, UInt8.ofNat c.frame.payload.length,
      fun i => receivedBuff c.frame.bytes (2 + i)⟩
    (fun i => response (2 + i))

/-- The bytes of the answer; its checksum goes on from the one of the command. -/
def Command.answer (p : CmdParser) (c : Command) (response : Nat → UInt8) :
    List UInt8 :=
  let output := c.parsed p response
  let body := output.returnCode :: UInt8.ofNat output.length
    :: firstBytes output.buffer output.length
  body ++ [xorSum c.frame.body ^^^ xorSum body]

/-- The response buffer after the answer: behind it, what the parser left. -/
def Command.responseBuff (p : CmdParser) (c : Command)
    (response : Nat → UInt8) : Nat → UInt8 :=
  fun i => (c.answer p response)[i]?.getD ((c.parsed p response).buffer (i - 2))

/-- Commands answered one by one: the answers and the response buffer. -/
def serve (p : CmdParser) (cs : List Command) :
    List (List UInt8) × (Nat → UInt8) :=
  cs.foldl (fun s c => (s.1 ++ [c.answer p s.2], c.responseBuff p s.2))
    ([], fun _ => 0)

theorem serve_concat (p : CmdParser) (cs : List Command) (c : Command) :
    serve p (cs ++ [c])
      = ((serve p cs).1 ++ [c.answer p (serve p cs).2],
        c.responseBuff p (serve p cs).2) := by
  rw [serve, List.foldl_append]
  rfl

/-! ## The conversation -/

/-- What the host does next. -/
inductive HostPc where
  | idle
  /-- COMMAND is at 0; the host waits for BUSY at 0. -/
  | waitReady (c : Command)
  | sending (c : Command)
  /-- COMMAND is back at 1; the host waits for BUSY at 1. -/
  | waitAnswer (c : Command)
  | reading (c : Command)

structure Host where
  pc : HostPc
  /-- What the modem has not taken yet of the bytes sent. -/
  toModem : List UInt8
  answered : List Command
  responses : List (List UInt8)
  /-- What the host has read of the next response. -/
  answer : List UInt8

structure State where
  machine : Machine
  host : Host

inductive Event where
  | lowerCommand (c : Command)
  | seeReady
  | raiseCommand
  | seeAnswer
  | readByte
  | wakeup (rxReady irqUpdate : Bool)
  | uart (u : UartIrq)
  | invoke
  | statement

/-- The second byte of a response says how long it is. -/
def isComplete : List UInt8 → Bool
  | _ :: length :: rest => rest.length == length.toNat + 1
  | _ => false

/-- Everything the host has read. -/
def Host.received (h : Host) : List UInt8 :=
  h.responses.flatten ++ h.answer

/-- The host after one more byte of the response to `c`. -/
def Host.read (h : Host) (c : Command) (b : UInt8) : Host :=
  let answer := h.answer ++ [b]
  if isComplete answer then
    { h with
      pc := .idle
      answered := h.answered ++ [c]
      responses := h.responses ++ [answer]
      answer := [] }
  else { h with answer := answer }

/-- A step of the modem, with what it means for the host. -/
def modemStep (p : CmdParser) (m : Machine) (e : HwModemHandshake.Event)
    (h : Host) : Option State :=
  (HwModemHandshake.step p m e).map fun m' => ⟨m', h⟩

def step (p : CmdParser) (s : State) : Event → Option State
  | .lowerCommand c =>
      match s.host.pc with
      | .idle =>
          modemStep p s.machine (.commandLine false)
            { s.host with pc := .waitReady c }
      | _ => none
  | .seeReady =>
      match s.host.pc with
      | .waitReady c =>
          if s.machine.modem.busy then none
          else
            some ⟨s.machine,
              { s.host with pc := .sending c, toModem := c.frame.bytes }⟩
      | _ => none
  | .raiseCommand =>
      match s.host.pc, s.host.toModem with
      | .sending c, [] =>
          modemStep p s.machine (.commandLine true)
            { s.host with pc := .waitAnswer c }
      | _, _ => none
  | .seeAnswer =>
      match s.host.pc with
      | .waitAnswer c =>
          if s.machine.modem.busy then
            some ⟨s.machine, { s.host with pc := .reading c }⟩
          else none
      | _ => none
  | .readByte =>
      match s.host.pc with
      | .reading c =>
          s.machine.modem.uartTx[s.host.received.length]?.map fun b =>
            ⟨s.machine, s.host.read c b⟩
      | _ => none
  | .wakeup rxReady irqUpdate =>
      modemStep p s.machine (.wakeup rxReady irqUpdate) s.host
  | .uart u =>
      -- the interrupt finds the next bytes of the host in the FIFO
      if u.received <+: s.host.toModem then
        modemStep p s.machine (.uart u)
          { s.host with toModem := s.host.toModem.drop u.received.length }
      else none
  | .invoke => modemStep p s.machine .invoke s.host
  | .statement => modemStep p s.machine .statement s.host

/-- The modem after `hw_modem_init` and a host that has said nothing. -/
def initial : State := ⟨HwModemHandshake.initial, ⟨.idle, [], [], [], []⟩⟩

/-! ## The flags and the receive buffer -/

/-- The flags, the lines and the pending interrupt. -/
structure Flags where
  ready : Bool
  available : Bool
  busy : Bool
  command : Bool
  edge : Bool
  rx : Bool

def flags (m : Machine) : Flags :=
  ⟨m.modem.isHwModemReadyToReceive, m.modem.hwCmdAvailable, m.modem.busy,
    m.modem.command, m.edgePending, m.modem.uartRxEnabled⟩

/-- Nothing was stored behind the receive buffer. -/
def BlankBehind (m : Modem) : Prop :=
  ∀ i, hwModemRxBuffMaxLength ≤ i → m.modemReceivedBuff i = 0

/-- The whole receive buffer. -/
theorem receivedBuff_of_holds {m : Modem} {bs : List UInt8} (h : Holds m bs)
    (hbehind : BlankBehind m) : m.modemReceivedBuff = receivedBuff bs := by
  funext i
  rw [receivedBuff]
  by_cases hi : i < hwModemRxBuffMaxLength
  · rw [if_pos hi]
    exact h.byte i hi
  · rw [if_neg hi]
    exact hbehind i (Nat.le_of_not_lt hi)

/-- A reception starts with nothing behind the buffer. -/
theorem startReception_behind (rxReady irqUpdate : Bool) {m : Modem}
    (h : BlankBehind m) :
    BlankBehind (hwModemStartReception rxReady irqUpdate m) := by
  intro i hi
  have hfilled : splice m.modemReceivedBuff 0 hwModemRxBuffMaxLength
      (fun _ => (0xFF : UInt8)) i = 0 :=
    (splice_outside (Or.inr (by omega))).trans (h i hi)
  rw [hwModemStartReception]
  cases rxReady && !irqUpdate with
  | true => exact hfilled
  | false => exact hfilled

/-- The bytes of one interrupt go into the receive buffer and nowhere else. -/
theorem foldl_storeReceivedByte_stores (cs : List UInt8) {m : Modem}
    {bs : List UInt8} (h : Holds m bs) (hbehind : BlankBehind m) :
    ∃ buff n, cs.foldl storeReceivedByte m
        = { m with modemReceivedBuff := buff, receivedLength := n }
      ∧ BlankBehind (cs.foldl storeReceivedByte m) := by
  induction cs generalizing m bs with
  | nil => exact ⟨_, _, rfl, hbehind⟩
  | cons c cs ih =>
      have hheld := storeReceivedByte_holds h c
      rw [List.foldl_cons]
      by_cases hfull : m.receivedLength = hwModemRxBuffMaxLength
      · have hsame : storeReceivedByte m c = m := if_pos hfull
        rw [hsame] at hheld ⊢
        exact ih hheld hbehind
      · have hstored : storeReceivedByte m c
            = { m with
                modemReceivedBuff := setByte m.modemReceivedBuff m.receivedLength c
                receivedLength := m.receivedLength + 1 } := if_neg hfull
        rw [hstored] at hheld ⊢
        refine ih hheld ?_
        intro i hi
        have hlen := h.length
        exact (setByte_other _ _ (by omega)).trans (hbehind i hi)

/-- A UART interrupt, with what it received. -/
theorem uartIrq_stores (u : UartIrq) {m : Modem} {bs : List UInt8}
    (h : Holds m bs) (hbehind : BlankBehind m) :
    ∃ buff n, uartIrqRxCallbackHandler u m
        = { m with modemReceivedBuff := buff, receivedLength := n }
      ∧ Holds { m with modemReceivedBuff := buff, receivedLength := n }
          (bs ++ u.received)
      ∧ BlankBehind { m with modemReceivedBuff := buff, receivedLength := n } := by
  have hstores : ∃ buff n, uartIrqRxCallbackHandler u m
        = { m with modemReceivedBuff := buff, receivedLength := n }
      ∧ BlankBehind (uartIrqRxCallbackHandler u m) := by
    rw [uartIrqRxCallbackHandler]
    cases u.irqUpdate with
    | false => exact ⟨_, _, rfl, hbehind⟩
    | true =>
        cases u.rxReady with
        | false => exact ⟨_, _, rfl, hbehind⟩
        | true => exact foldl_storeReceivedByte_stores u.fifo h hbehind
  have hheld := uartIrq_holds h u
  obtain ⟨buff, n, hhandler, hblank⟩ := hstores
  rw [hhandler] at hheld hblank
  exact ⟨buff, n, hhandler, hheld, hblank⟩

/-- COMMAND at 0 opens a reception when the modem is ready. -/
theorem handler_opens (rxReady irqUpdate : Bool) {m : Modem}
    (hready : m.isHwModemReadyToReceive = true) (hcommand : m.command = false) :
    wakeupLineIrqHandler rxReady irqUpdate m
      = { hwModemStartReception rxReady irqUpdate m with lpMode := .disable } := by
  rcases HwModemHandshake.wakeupLineIrqHandler_cases rxReady irqUpdate m with
    ⟨_, _, hm⟩ | ⟨hr, _, _⟩ | ⟨hr, _⟩
  · exact hm
  · cases hr.symm.trans hready
  · cases (hr.symm.trans hready).symm.trans hcommand

/-- COMMAND at 1 completes the reception that is open. -/
theorem handler_completes (rxReady irqUpdate : Bool) {m : Modem}
    (hready : m.isHwModemReadyToReceive = false) (hcommand : m.command = true) :
    wakeupLineIrqHandler rxReady irqUpdate m
      = { m with
          uartRxEnabled := false
          hwCmdAvailable := true
          mainLoopSem := true
          lpMode := .disableOnce } := by
  rcases HwModemHandshake.wakeupLineIrqHandler_cases rxReady irqUpdate m with
    ⟨hr, _, _⟩ | ⟨_, _, hm⟩ | ⟨hr, _⟩
  · cases hr.symm.trans hready
  · exact hm
  · cases (hr.symm.trans hready).symm.trans hcommand

/-! ## The end of an invocation -/

/-- Nothing of an invocation is left but its return. -/
def Rests (m : Machine) : Prop :=
  m.pc = .idle ∨ ∃ i, m.pc = .send i ∧ m.modem.responseLength + 3 ≤ i

/-- It returns. -/
theorem rests_statement {p : CmdParser} {m t : Machine} (h : Rests m)
    (ht : HwModemHandshake.statement p m = some t) :
    t = { m with pc := .idle } := by
  obtain ⟨modem, ep, pc, loc⟩ := m
  rcases h with hidle | ⟨i, hsend, hlast⟩
  · cases hidle
    cases ht
  · cases hsend
    have hdone : HwModemHandshake.statement p ⟨modem, ep, .send i, loc⟩
        = some ⟨modem, ep, .idle, loc⟩ := if_neg (Nat.not_lt.mpr hlast)
    rw [hdone] at ht
    exact (Option.some.inj ht).symm

/-- The statements of one invocation, as far as they got. -/
theorem statements_cases {p : CmdParser} {m final : Machine}
    (h : Statements p m final) :
    m = final ∨ ∃ t, HwModemHandshake.statement p m = some t
      ∧ Statements p t final := by
  obtain ⟨n, hn⟩ := h
  cases n with
  | zero => exact Or.inl (Option.some.inj hn)
  | succ n =>
      obtain ⟨t, ht, hrest⟩ := run_cons_some hn
      exact Or.inr ⟨t, ht, n, hrest⟩

/-- The next statement is one of them. -/
theorem statements_next {p : CmdParser} {m t final : Machine}
    (h : Statements p m final) (hidle : final.pc = .idle)
    (ht : HwModemHandshake.statement p m = some t) : Statements p t final := by
  rcases statements_cases h with rfl | ⟨u, hu, hrest⟩
  · obtain ⟨modem, ep, pc, loc⟩ := m
    cases hidle
    cases ht
  · cases hu.symm.trans ht
    exact hrest

/-- What rests has already done all of them. -/
theorem statements_rests {p : CmdParser} {m final : Machine}
    (h : Statements p m final) (hidle : final.pc = .idle) (hrests : Rests m) :
    final = { m with pc := .idle } := by
  rcases statements_cases h with rfl | ⟨t, ht, hrest⟩
  · obtain ⟨modem, ep, pc, loc⟩ := m
    cases hidle
    rfl
  · obtain rfl := rests_statement hrests ht
    rcases statements_cases hrest with rfl | ⟨u, hu, _⟩
    · rfl
    · cases hu

/-- A statement takes back nothing that was sent. -/
theorem statement_uartTx {p : CmdParser} {m t : Machine}
    (h : HwModemHandshake.statement p m = some t) :
    m.modem.uartTx <+: t.modem.uartTx := by
  obtain ⟨modem, ep, pc, loc⟩ := m
  cases pc with
  | idle => cases h
  | send i =>
      rcases branch_cases h with ⟨_, rfl⟩ | ⟨_, rfl⟩
      · exact List.prefix_append _ _
      · exact List.prefix_rfl
  | checkId | commandCrc | checkCrc | checkExtra | responseCrc =>
      rcases branch_cases h with ⟨_, rfl⟩ | ⟨_, rfl⟩
      · exact List.prefix_rfl
      · exact List.prefix_rfl
  | readLength | readCrc | readId | parse | writeRc | writeLength | setReady
  | clearAvailable | raiseBusy | storeCrc =>
      cases h
      exact List.prefix_rfl

theorem statements_uartTx {p : CmdParser} {m final : Machine}
    (h : Statements p m final) : m.modem.uartTx <+: final.modem.uartTx := by
  obtain ⟨n, hn⟩ := h
  refine run_invariant (fun t => m.modem.uartTx <+: t.modem.uartTx)
    (· = HwModemHandshake.Event.statement) ?_ ?_ List.prefix_rfl hn
  · intro t e u he ht hu
    subst he
    exact ht.trans (statement_uartTx hu)
  · intro e he
    exact List.eq_of_mem_replicate he

/-- The statements from `raiseBusy` on. -/
def Answering (m : Machine) : Prop := m.pc.phase = .resting

/-- An answer that is not at its end goes on, or sends a byte. -/
theorem answering_statement {p : CmdParser} {m t : Machine}
    (h : Answering m) (hnot : ¬ Rests m)
    (ht : HwModemHandshake.statement p m = some t) :
    Answering t ∧ (¬ Rests t
      ∨ m.modem.uartTx.length < t.modem.uartTx.length) := by
  obtain ⟨modem, ep, pc, loc⟩ := m
  cases pc with
  | idle => exact absurd (Or.inl rfl) hnot
  | responseCrc i =>
      rcases branch_cases ht with ⟨_, rfl⟩ | ⟨_, rfl⟩
      · exact ⟨rfl, Or.inl (by rintro (h | ⟨_, h, _⟩) <;> cases h)⟩
      · exact ⟨rfl, Or.inl (by rintro (h | ⟨_, h, _⟩) <;> cases h)⟩
  | storeCrc =>
      cases ht
      refine ⟨rfl, Or.inl ?_⟩
      rintro (h | ⟨i, h, hlast⟩)
      · cases h
      · cases h
        exact absurd hlast (Nat.not_succ_le_zero _)
  | send i =>
      rcases branch_cases ht with ⟨_, rfl⟩ | ⟨hlast, rfl⟩
      · refine ⟨rfl, Or.inr ?_⟩
        show modem.uartTx.length < (modem.uartTx ++ [_]).length
        rw [List.length_append]
        exact Nat.lt_succ_self _
      · exact absurd (Or.inr ⟨i, rfl, Nat.not_lt.mp hlast⟩) hnot
  | checkId | commandCrc | checkCrc | checkExtra | readLength | readCrc | readId
  | parse | writeRc | writeLength | setReady | clearAvailable | raiseBusy => cases h

/-- **AN ANSWER NOT AT ITS END HAS BYTES TO SEND.** -/
theorem answering_unfinished {p : CmdParser} {m final : Machine}
    (h : Answering m) (hnot : ¬ Rests m) (hs : Statements p m final)
    (hidle : final.pc = .idle) :
    m.modem.uartTx.length < final.modem.uartTx.length := by
  obtain ⟨n, hn⟩ := hs
  induction n generalizing m with
  | zero =>
      cases hn
      exact absurd (Or.inl hidle) hnot
  | succ n ih =>
      obtain ⟨t, ht, hrest⟩ := run_cons_some hn
      obtain ⟨hanswering, hgoes⟩ := answering_statement h hnot ht
      rcases hgoes with hunfinished | hsent
      · exact Nat.lt_of_le_of_lt (statement_uartTx ht).length_le
          (ih hanswering hunfinished hrest)
      · exact Nat.lt_of_lt_of_le hsent
          (statements_uartTx ⟨n, hrest⟩).length_le

/-- BUSY at 1 says that the answer comes. -/
def BusyTells (m : Machine) : Prop := m.modem.busy = true → Answering m

/-- Only an invocation ends what rests. -/
theorem turn_resting {l l' : HwModemHandshake.Line}
    {ph ph' : HwModemHandshake.Phase} (h : HwModemHandshake.Turn l ph l' ph')
    (hph : ph = .resting) : ph' = .resting := by
  cases h with
  | quiet | opened | completed | received => exact hph
  | reopened | cleared => cases hph
  | raised => rfl

/-- BUSY goes to 1 with the answer. -/
theorem turn_busy {l l' : HwModemHandshake.Line}
    {ph ph' : HwModemHandshake.Phase} (h : HwModemHandshake.Turn l ph l' ph')
    (hbusy : l.busy = true → ph = .resting) (hbusy' : l'.busy = true) :
    ph' = .resting := by
  cases h with
  | quiet | completed | received => exact hbusy hbusy'
  | opened gaveUp _ _ =>
      refine hbusy ?_
      cases gaveUp with
      | true => exact hbusy'
      | false => cases hbusy'
  | reopened | cleared => cases hbusy hbusy'
  | raised => rfl

/-- Statements keep to it, and do not go back. -/
theorem statement_answering {p : CmdParser} {m t : Machine}
    (h : HwModemHandshake.statement p m = some t) :
    (Answering m → Answering t) ∧ (BusyTells m → BusyTells t) := by
  have hturn := HwModemHandshake.statement_turn h
  exact ⟨turn_resting hturn, turn_busy hturn⟩

/-- They leave the receiver and the COMMAND line alone. -/
theorem statement_receiver {p : CmdParser} {m t : Machine}
    (h : HwModemHandshake.statement p m = some t) :
    t.edgePending = m.edgePending
      ∧ t.modem.uartRxEnabled = m.modem.uartRxEnabled
      ∧ t.modem.command = m.modem.command := by
  obtain ⟨modem, ep, pc, loc⟩ := m
  cases pc with
  | idle => cases h
  | checkId | commandCrc | checkCrc | checkExtra | responseCrc | send =>
      rcases branch_cases h with ⟨_, rfl⟩ | ⟨_, rfl⟩
      · exact ⟨rfl, rfl, rfl⟩
      · exact ⟨rfl, rfl, rfl⟩
  | readLength | readCrc | readId | parse | writeRc | writeLength | setReady
  | clearAvailable | raiseBusy | storeCrc =>
      cases h
      exact ⟨rfl, rfl, rfl⟩

/-! ## An invocation serves the command -/

/-- The command passes the tests, and is what the buffer announces. -/
theorem receivedBuff_accepted (c : Command) :
    Accepts (receivedBuff c.frame.bytes)
      ∧ ofBuffer (receivedBuff c.frame.bytes) = c.frame := by
  refine (accepts_iff ?_ c.frame).mpr ⟨c.id_ne, startsWith_bytes c.frame⟩
  intro i hi
  exact if_pos hi

/-- What the server answers is what `hw_modem_process_cmd` answers to the received
    command. -/
theorem answerCmd_parsed (p : CmdParser) (c : Command)
    (response : Nat → UInt8) :
    answerCmd p (receivedBuff c.frame.bytes) response
      = ⟨(c.parsed p response).returnCode, (c.parsed p response).length,
          fun i => if i < 2 then response i
            else (c.parsed p response).buffer (i - 2),
          some ⟨c.frame.id, UInt8.ofNat c.frame.payload.length,
            fun i => receivedBuff c.frame.bytes (2 + i)⟩⟩ := by
  obtain ⟨⟨_, hcrc, hblank⟩, _⟩ := receivedBuff_accepted c
  have hextra : ¬ (receivedBuff c.frame.bytes
        ((receivedBuff c.frame.bytes 1).toNat + 3) ≠ 0xFF
      ∧ receivedBuff c.frame.bytes 1 ≠ 0xFF) := by
    rintro ⟨hnext, hmax⟩
    exact hblank.elim hnext hmax
  rw [answerCmd, if_neg (not_not_intro hcrc), if_neg hextra]
  rfl

/-- The checksum variable after the command. -/
theorem xorLoop_command (c : Command) :
    xorLoop 0 (receivedBuff c.frame.bytes)
        ((receivedBuff c.frame.bytes 1).toNat + 2) = xorSum c.frame.body := by
  rw [xorLoop_eq, UInt8.zero_xor, ← ofBuffer_body, (receivedBuff_accepted c).2]

@[simp] theorem length_answer (p : CmdParser) (c : Command)
    (response : Nat → UInt8) :
    (c.answer p response).length = (c.parsed p response).length + 3 := by
  simp [Command.answer]

/-- The bytes sent and the buffer they are sent from. -/
theorem sealResponse_answer {p : CmdParser} (hp : p.Bounded) (c : Command)
    (response : Nat → UInt8) {a : Answer}
    (ha : answerCmd p (receivedBuff c.frame.bytes) response = a) :
    firstBytes (sealResponse (xorSum c.frame.body) a) (a.responseLength + 3)
        = c.answer p response
      ∧ sealResponse (xorSum c.frame.body) a = c.responseBuff p response := by
  rw [answerCmd_parsed] at ha
  subst ha
  have hlen : (c.parsed p response).length ≤ 255 := hp _ _
  let output := c.parsed p response
  let f : Frame :=
    ⟨output.returnCode, firstBytes output.buffer output.length, by
      rw [length_firstBytes]
      exact Nat.lt_succ_of_le hlen⟩
  have hpayload : (fun i => if 2 + i < 2 then response (2 + i)
      else output.buffer (2 + i - 2)) = output.buffer := by
    funext i
    rw [if_neg (by omega), Nat.add_sub_cancel_left]
  have hbody : f.body = output.returnCode :: UInt8.ofNat output.length
      :: firstBytes output.buffer output.length := by
    show f.id :: UInt8.ofNat (firstBytes _ _).length :: _ = _
    rw [length_firstBytes]
  have hsent := sealResponse_sent (xorSum c.frame.body)
    (a := ⟨output.returnCode, output.length,
      fun i => if i < 2 then response i else output.buffer (i - 2),
      some ⟨c.frame.id, UInt8.ofNat c.frame.payload.length,
        fun i => receivedBuff c.frame.bytes (2 + i)⟩⟩)
    (f := f) ⟨rfl, by rw [hpayload]⟩
  rw [hbody] at hsent
  refine ⟨hsent, ?_⟩
  have hanswer : _ = c.answer p response := hsent
  funext i
  rw [Command.responseBuff]
  by_cases hi : i < (c.parsed p response).length + 3
  · rw [← hanswer, getElem?_firstBytes _ hi]
    rfl
  · -- behind the answer
    rw [List.getElem?_eq_none (by rw [length_answer]; exact Nat.not_lt.mp hi)]
    show setByte (setByte (setByte _ 0 _) 1 _)
      ((c.parsed p response).length + 2) _ i = _
    rw [setByte_other _ _ (by omega), setByte_other _ _ (by omega),
      setByte_other _ _ (by omega)]
    exact if_neg (by omega)

/-- **AN INVOCATION DOES WHAT THE SERVER DOES.** -/
theorem processCmd_serves {p : CmdParser} (hp : p.Bounded) (c : Command)
    {m : Modem} (hm : m.modemReceivedBuff = receivedBuff c.frame.bytes) :
    ∃ n, (hwModemProcessCmd p m).1
      = { m with
          responseLength := n
          modemResponseBuff := c.responseBuff p m.modemResponseBuff
          isHwModemReadyToReceive := true
          hwCmdAvailable := false
          busy := true
          uartTx := m.uartTx ++ c.answer p m.modemResponseBuff } := by
  obtain ⟨hsent, hbuff⟩ := sealResponse_answer hp c m.modemResponseBuff rfl
  have hid : m.modemReceivedBuff 0 < 0xFF := by
    rw [hm, lt_blank_iff]
    exact c.id_ne
  rw [hwModemProcessCmd, if_pos hid, hm, xorLoop_command]
  dsimp only
  rw [hsent, hbuff]
  exact ⟨_, rfl⟩

/-! ## The phases of an exchange -/

/-- Everything before the running exchange is answered and read. -/
structure Settled (p : CmdParser) (s : State) : Prop where
  rests : Rests s.machine
  sent : s.machine.modem.uartTx = s.host.responses.flatten
  response : s.machine.modem.modemResponseBuff = (serve p s.host.answered).2
  behind : BlankBehind s.machine.modem
  answer : s.host.answer = []

/-- An invocation that is on its way to `final`, where the command `c` is
    answered. -/
structure Serving (p : CmdParser) (s : State) (c : Command) (final : Machine) :
    Prop where
  statements : Statements p s.machine final
  idle : final.pc = .idle
  flags : flags final = ⟨true, false, true, true, false, false⟩
  sent : final.modem.uartTx
    = s.host.responses.flatten ++ c.answer p (serve p s.host.answered).2
  response : final.modem.modemResponseBuff
    = c.responseBuff p (serve p s.host.answered).2
  behind : BlankBehind final.modem
  /-- No interrupt can come. -/
  quiet : s.machine.edgePending = false ∧ s.machine.modem.uartRxEnabled = false
    ∧ s.machine.modem.command = true
  busy : BusyTells s.machine

/-- Where an exchange is.  The flags are `ready`, `available`, `busy`, `command`,
    `edge` and `rx`. -/
inductive Phase (p : CmdParser) (s : State) : Prop where
  | idle (hpc : s.host.pc = .idle)
      (hflags : flags s.machine = ⟨true, false, true, true, false, false⟩)
      (hline : s.host.toModem = []) (hsettled : Settled p s)
  | lowered (c : Command) (hpc : s.host.pc = .waitReady c)
      (hflags : flags s.machine = ⟨true, false, true, false, true, false⟩)
      (hline : s.host.toModem = []) (hsettled : Settled p s)
  /-- The handler returned with the receiver closed. -/
  | gaveUp (c : Command) (hpc : s.host.pc = .waitReady c)
      (hflags : flags s.machine = ⟨false, false, true, false, false, false⟩)
      (hline : s.host.toModem = []) (hsettled : Settled p s)
  | opened (c : Command) (hpc : s.host.pc = .waitReady c)
      (hflags : flags s.machine = ⟨false, false, false, false, false, true⟩)
      (hline : s.host.toModem = []) (hsettled : Settled p s)
      (hheld : Holds s.machine.modem [])
  | receiving (c : Command) (bs : List UInt8) (hpc : s.host.pc = .sending c)
      (hflags : flags s.machine = ⟨false, false, false, false, false, true⟩)
      (hline : bs ++ s.host.toModem = c.frame.bytes) (hsettled : Settled p s)
      (hheld : Holds s.machine.modem bs)
  | raised (c : Command) (hpc : s.host.pc = .waitAnswer c)
      (hflags : flags s.machine = ⟨false, false, false, true, true, true⟩)
      (hline : s.host.toModem = []) (hsettled : Settled p s)
      (hheld : Holds s.machine.modem c.frame.bytes)
  | available (c : Command) (hpc : s.host.pc = .waitAnswer c)
      (hflags : flags s.machine = ⟨false, true, false, true, false, false⟩)
      (hline : s.host.toModem = []) (hsettled : Settled p s)
      (hheld : Holds s.machine.modem c.frame.bytes)
  | processing (c : Command) (final : Machine) (hpc : s.host.pc = .waitAnswer c)
      (hline : s.host.toModem = []) (hserving : Serving p s c final)
      (hanswer : s.host.answer = [])
  | answering (c : Command) (final : Machine) (hpc : s.host.pc = .reading c)
      (hline : s.host.toModem = []) (hserving : Serving p s c final)
      (hanswering : Answering s.machine)
      (hanswer : s.host.answer <+: c.answer p (serve p s.host.answered).2)
      (hopen : isComplete s.host.answer = false)

/-- What the host has is what the server answered, and the exchange is in one of
    its phases. -/
structure Inv (p : CmdParser) (s : State) : Prop where
  served : s.host.responses = (serve p s.host.answered).1
  phase : Phase p s

theorem inv_initial (p : CmdParser) : Inv p initial where
  served := rfl
  phase := .idle rfl rfl rfl ⟨Or.inl rfl, rfl, rfl, fun _ _ => rfl, rfl⟩

/-- An exchange whose invocation has answered and returned, or is about to. -/
theorem Serving.rests {p : CmdParser} {s : State} {c : Command} {final : Machine}
    (h : Serving p s c final) (hanswering : Answering s.machine)
    (hsent : s.machine.modem.uartTx.length = final.modem.uartTx.length) :
    Rests s.machine ∧ final = { s.machine with pc := .idle } := by
  have hrests : Rests s.machine := by
    refine Classical.byContradiction fun hnot => ?_
    exact Nat.ne_of_lt
      (answering_unfinished hanswering hnot h.statements h.idle) hsent
  exact ⟨hrests, statements_rests h.statements h.idle hrests⟩

/-! ## The host's steps -/

theorem lowerCommand_inv {p : CmdParser} {s t : State} {c : Command}
    (hs : Inv p s) (h : step p s (.lowerCommand c) = some t) : Inv p t := by
  obtain ⟨machine, host⟩ := s
  cases hpc : host.pc with
  | idle =>
      simp only [step, hpc] at h
      cases h
      refine ⟨hs.served, ?_⟩
      cases hs.phase with
      | idle _ hflags hline hsettled =>
          obtain ⟨hrests, hsent, hresponse, hbehind, hanswer⟩ := hsettled
          refine .lowered c rfl ?_ hline
            ⟨hrests, hsent, hresponse, hbehind, hanswer⟩
          show ({ flags machine with
            command := false
            edge := (flags machine).edge || (false != (flags machine).command) }
            : Flags) = _
          rw [hflags]
          rfl
      | lowered _ hpc' | gaveUp _ hpc' | opened _ hpc' | receiving _ _ hpc'
      | raised _ hpc' | available _ hpc' | processing _ _ hpc'
      | answering _ _ hpc' => cases hpc.symm.trans hpc'
  | waitReady | sending | waitAnswer | reading =>
      simp only [step, hpc] at h
      cases h

/-- BUSY at 0 means that the receiver is open and empty. -/
theorem seeReady_inv {p : CmdParser} {s t : State} (hs : Inv p s)
    (h : step p s .seeReady = some t) : Inv p t := by
  obtain ⟨machine, host⟩ := s
  cases hpc : host.pc with
  | waitReady c =>
      simp only [step, hpc] at h
      obtain ⟨hbusy, h⟩ := Option.ite_none_left_eq_some.mp h
      cases h
      refine ⟨hs.served, ?_⟩
      cases hs.phase with
      | opened _ _ hflags _ hsettled hheld =>
          obtain ⟨hrests, hsent, hresponse, hbehind, hanswer⟩ := hsettled
          exact .receiving c [] rfl hflags rfl
            ⟨hrests, hsent, hresponse, hbehind, hanswer⟩ hheld
      | lowered _ _ hflags | gaveUp _ _ hflags =>
          exact absurd (congrArg Flags.busy hflags) hbusy
      | idle hpc' | receiving _ _ hpc' | raised _ hpc' | available _ hpc'
      | processing _ _ hpc' | answering _ _ hpc' => cases hpc.symm.trans hpc'
  | idle | sending | waitAnswer | reading =>
      simp only [step, hpc] at h
      cases h

/-- When the host raises COMMAND, the modem has the whole frame. -/
theorem raiseCommand_inv {p : CmdParser} {s t : State} (hs : Inv p s)
    (h : step p s .raiseCommand = some t) : Inv p t := by
  obtain ⟨machine, host⟩ := s
  cases hpc : host.pc with
  | sending c =>
      cases hrest : host.toModem with
      | cons b rest =>
          simp only [step, hpc, hrest] at h
          cases h
      | nil =>
          simp only [step, hpc, hrest] at h
          cases h
          refine ⟨hs.served, ?_⟩
          cases hs.phase with
          | receiving c' bs hpc' hflags hline hsettled hheld =>
              cases hpc.symm.trans hpc'
              obtain ⟨hrests, hsent, hresponse, hbehind, hanswer⟩ := hsettled
              dsimp only at hline hheld
              rw [hrest, List.append_nil] at hline
              subst hline
              refine .raised c rfl ?_ rfl
                ⟨hrests, hsent, hresponse, hbehind, hanswer⟩
                ⟨hheld.length, hheld.byte⟩
              show ({ flags machine with
                command := true
                edge := (flags machine).edge || (true != (flags machine).command) }
                : Flags) = _
              rw [hflags]
              rfl
          | idle hpc' | lowered _ hpc' | gaveUp _ hpc' | opened _ hpc'
          | raised _ hpc' | available _ hpc' | processing _ _ hpc'
          | answering _ _ hpc' => cases hpc.symm.trans hpc'
  | idle | waitReady | waitAnswer | reading =>
      simp only [step, hpc] at h
      cases h

/-- BUSY at 1 means that the answer is on its way. -/
theorem seeAnswer_inv {p : CmdParser} {s t : State} (hs : Inv p s)
    (h : step p s .seeAnswer = some t) : Inv p t := by
  obtain ⟨machine, host⟩ := s
  cases hpc : host.pc with
  | waitAnswer c =>
      simp only [step, hpc] at h
      obtain ⟨hbusy, h⟩ := Option.ite_none_right_eq_some.mp h
      cases h
      refine ⟨hs.served, ?_⟩
      cases hs.phase with
      | processing c' final hpc' hline hserving hanswer =>
          cases hpc.symm.trans hpc'
          obtain ⟨hstatements, hidle, hflags, hsent, hresponse, hbehind, hquiet,
            htells⟩ := hserving
          refine .answering c final rfl hline
            ⟨hstatements, hidle, hflags, hsent, hresponse, hbehind, hquiet, htells⟩
            (htells hbusy) ?_ ?_
          · show host.answer <+: _
            rw [show host.answer = [] from hanswer]
            exact List.nil_prefix
          · show isComplete host.answer = false
            rw [show host.answer = [] from hanswer]
            rfl
      | raised _ _ hflags | available _ _ hflags =>
          cases hbusy.symm.trans (congrArg Flags.busy hflags)
      | idle hpc' | lowered _ hpc' | gaveUp _ hpc' | opened _ hpc'
      | receiving _ _ hpc' | answering _ _ hpc' => cases hpc.symm.trans hpc'
  | idle | waitReady | sending | reading =>
      simp only [step, hpc] at h
      cases h

/-- A complete beginning of an answer is all of it. -/
theorem answer_of_isComplete {p : CmdParser} (hp : p.Bounded) {c : Command}
    {response : Nat → UInt8} {bs : List UInt8}
    (hbegin : bs <+: c.answer p response) (hcomplete : isComplete bs = true) :
    bs = c.answer p response := by
  refine hbegin.eq_of_length ?_
  rw [length_answer]
  cases bs with
  | nil => cases hcomplete
  | cons rc bs =>
      cases bs with
      | nil => cases hcomplete
      | cons length rest =>
          have hlength : length = UInt8.ofNat (c.parsed p response).length :=
            (List.cons_prefix_cons.mp (List.cons_prefix_cons.mp hbegin).2).1
          have hle : (c.parsed p response).length ≤ 255 := hp _ _
          have hrest : rest.length = length.toNat + 1 :=
            beq_iff_eq.mp hcomplete
          rw [List.length_cons, List.length_cons, hrest, hlength,
            UInt8.toNat_ofNat_of_lt' (Nat.lt_succ_of_le hle)]

/-- A byte after which the response goes on. -/
theorem Host.read_more {h : Host} {c : Command} {b : UInt8}
    (hopen : isComplete (h.answer ++ [b]) = false) :
    h.read c b = { h with answer := h.answer ++ [b] } :=
  if_neg (Bool.eq_false_iff.mp hopen)

/-- The last byte of a response. -/
theorem Host.read_last {h : Host} {c : Command} {b : UInt8}
    (hcomplete : isComplete (h.answer ++ [b]) = true) :
    h.read c b
      = { h with
          pc := .idle
          answered := h.answered ++ [c]
          responses := h.responses ++ [h.answer ++ [b]]
          answer := [] } :=
  if_pos hcomplete

/-- The byte the host reads next. -/
theorem readByte_answer {p : CmdParser} {s : State} {c : Command}
    {final : Machine} {b : UInt8} (hserving : Serving p s c final)
    (hanswer : s.host.answer <+: c.answer p (serve p s.host.answered).2)
    (hb : s.machine.modem.uartTx[s.host.received.length]? = some b) :
    s.host.answer ++ [b] <+: c.answer p (serve p s.host.answered).2 := by
  obtain ⟨rest, hrest⟩ := hanswer
  obtain ⟨later, hlater⟩ := statements_uartTx hserving.statements
  have hline : s.machine.modem.uartTx ++ later = s.host.received ++ rest := by
    rw [hlater, hserving.sent, ← hrest, Host.received, List.append_assoc]
  -- the byte comes right after what the host has read
  have hnext := congrArg (·[s.host.received.length]?) hline
  obtain ⟨hlt, -⟩ := List.getElem?_eq_some_iff.mp hb
  rw [List.getElem?_append_left hlt, hb,
    List.getElem?_append_right (Nat.le_refl _), Nat.sub_self] at hnext
  cases rest with
  | nil => cases hnext
  | cons b' rest =>
      cases hnext
      rw [← hrest]
      exact ⟨rest, by rw [List.append_assoc, List.singleton_append]⟩

/-- The host takes the next byte of the server's answer, and the answer is over
    with its last byte. -/
theorem readByte_inv {p : CmdParser} (hp : p.Bounded) {s t : State}
    (hs : Inv p s) (h : step p s .readByte = some t) : Inv p t := by
  obtain ⟨machine, host⟩ := s
  cases hpc : host.pc with
  | reading c =>
      simp only [step, hpc] at h
      obtain ⟨b, hb, rfl⟩ := Option.map_eq_some_iff.mp h
      cases hs.phase with
      | answering c' final hpc' hline hserving hanswering hanswer _ =>
          cases hpc.symm.trans hpc'
          have hread := readByte_answer hserving hanswer hb
          cases hcomplete : isComplete (host.answer ++ [b]) with
          | false =>
              obtain ⟨hstatements, hidle, hflags, hsent, hresponse, hbehind,
                hquiet, htells⟩ := hserving
              rw [Host.read_more hcomplete]
              exact ⟨hs.served, .answering c final hpc hline
                ⟨hstatements, hidle, hflags, hsent, hresponse, hbehind, hquiet,
                  htells⟩ hanswering hread hcomplete⟩
          | true =>
              have hwhole := answer_of_isComplete hp hread hcomplete
              obtain ⟨hlt, -⟩ := List.getElem?_eq_some_iff.mp hb
              have hall : machine.modem.uartTx.length
                  = final.modem.uartTx.length := by
                refine Nat.le_antisymm
                  (statements_uartTx hserving.statements).length_le ?_
                rw [hserving.sent, ← hwhole, List.length_append,
                  List.length_append, List.length_singleton, ← Nat.add_assoc,
                  ← List.length_append]
                exact hlt
              obtain ⟨hrests, hfinal⟩ := hserving.rests hanswering hall
              obtain ⟨-, -, hflags, hsent, hresponse, hbehind, -, -⟩ := hserving
              subst hfinal
              rw [Host.read_last hcomplete]
              dsimp only at hsent hresponse hwhole
              refine ⟨?_, .idle rfl hflags hline ⟨hrests, ?_, ?_, hbehind, rfl⟩⟩
              · dsimp only
                rw [serve_concat, hwhole, ← hs.served]
              · dsimp only
                rw [hsent, List.flatten_append, List.flatten_singleton, hwhole]
              · dsimp only
                rw [hresponse, serve_concat]
      | idle hpc' | lowered _ hpc' | gaveUp _ hpc' | opened _ hpc'
      | receiving _ _ hpc' | raised _ hpc' | available _ hpc'
      | processing _ _ hpc' => cases hpc.symm.trans hpc'
  | idle | waitReady | sending | waitAnswer =>
      simp only [step, hpc] at h
      cases h

/-! ## The modem's steps -/

/-- The handler of the COMMAND line runs for an edge the host has made. -/
theorem wakeup_inv {p : CmdParser} {s t : State} {rxReady irqUpdate : Bool}
    (hs : Inv p s) (h : step p s (.wakeup rxReady irqUpdate) = some t) :
    Inv p t := by
  obtain ⟨machine, host⟩ := s
  obtain ⟨m, hm, rfl⟩ := Option.map_eq_some_iff.mp h
  obtain ⟨hedge, rfl⟩ := Option.ite_some_none_eq_some.mp hm
  refine ⟨hs.served, ?_⟩
  cases hs.phase with
  | lowered c hpc hflags hline hsettled =>
      obtain ⟨hrests, hsent, hresponse, hbehind, hanswer⟩ := hsettled
      dsimp only at hrests hsent hresponse hbehind
      have hheld := startReception_holds rxReady irqUpdate machine.modem
      have hblank := startReception_behind rxReady irqUpdate hbehind
      rw [handler_opens rxReady irqUpdate (congrArg Flags.ready hflags)
        (congrArg Flags.command hflags)]
      rw [hwModemStartReception] at hblank hheld ⊢
      cases hgive : rxReady && !irqUpdate with
      | true =>
          rw [hgive] at hblank
          refine .gaveUp c hpc ?_ hline ⟨hrests, hsent, hresponse, hblank, hanswer⟩
          show ({ flags machine with ready := false, edge := false } : Flags) = _
          rw [hflags]
      | false =>
          rw [hgive] at hheld hblank
          refine .opened c hpc ?_ hline
            ⟨hrests, hsent, hresponse, hblank, hanswer⟩
            ⟨hheld.length, hheld.byte⟩
          show ({ flags machine with
            ready := false, busy := false, edge := false, rx := true }
            : Flags) = _
          rw [hflags]
  | raised c hpc hflags hline hsettled hheld =>
      obtain ⟨hrests, hsent, hresponse, hbehind, hanswer⟩ := hsettled
      rw [handler_completes rxReady irqUpdate (congrArg Flags.ready hflags)
        (congrArg Flags.command hflags)]
      refine .available c hpc ?_ hline
        ⟨hrests, hsent, hresponse, hbehind, hanswer⟩ ⟨hheld.length, hheld.byte⟩
      show ({ flags machine with available := true, edge := false, rx := false }
        : Flags) = _
      rw [hflags]
  | idle _ hflags | gaveUp _ _ hflags | opened _ _ hflags
  | receiving _ _ _ hflags | available _ _ hflags =>
      cases hedge.symm.trans (congrArg Flags.edge hflags)
  | processing _ _ _ _ hserving | answering _ _ _ _ hserving =>
      cases hedge.symm.trans hserving.quiet.1

/-- A UART interrupt takes bytes of the host to the receive buffer. -/
theorem uart_inv {p : CmdParser} {s t : State} {u : UartIrq}
    (hs : Inv p s) (h : step p s (.uart u) = some t) : Inv p t := by
  obtain ⟨machine, host⟩ := s
  obtain ⟨hbegin, h⟩ := Option.ite_none_right_eq_some.mp h
  obtain ⟨m, hm, rfl⟩ := Option.map_eq_some_iff.mp h
  obtain ⟨hrx, rfl⟩ := Option.ite_some_none_eq_some.mp hm
  refine ⟨hs.served, ?_⟩
  -- what it receives is the beginning of what is under way
  obtain ⟨rest, hrest⟩ := hbegin
  have hdrop : host.toModem.drop u.received.length = rest := by
    rw [← hrest, List.drop_left]
  have hnone : host.toModem = [] → u.received = [] ∧ rest = [] := by
    intro hline
    rw [hline] at hrest
    exact List.append_eq_nil_iff.mp hrest
  cases hs.phase with
  | opened c hpc hflags hline hsettled hheld =>
      obtain ⟨hrests, hsent, hresponse, hbehind, hanswer⟩ := hsettled
      obtain ⟨hreceived, hempty⟩ := hnone hline
      obtain ⟨buff, n, hstores, hheld', hblank⟩ := uartIrq_stores u hheld hbehind
      rw [hreceived, List.append_nil] at hheld'
      rw [hstores]
      exact .opened c hpc hflags (hdrop.trans hempty)
        ⟨hrests, hsent, hresponse, hblank, hanswer⟩ hheld'
  | receiving c bs hpc hflags hline hsettled hheld =>
      obtain ⟨hrests, hsent, hresponse, hbehind, hanswer⟩ := hsettled
      obtain ⟨buff, n, hstores, hheld', hblank⟩ := uartIrq_stores u hheld hbehind
      rw [hstores]
      refine .receiving c (bs ++ u.received) hpc hflags ?_
        ⟨hrests, hsent, hresponse, hblank, hanswer⟩ hheld'
      dsimp only at hline ⊢
      rw [hdrop, List.append_assoc, hrest, hline]
  | raised c hpc hflags hline hsettled hheld =>
      obtain ⟨hrests, hsent, hresponse, hbehind, hanswer⟩ := hsettled
      obtain ⟨hreceived, hempty⟩ := hnone hline
      obtain ⟨buff, n, hstores, hheld', hblank⟩ := uartIrq_stores u hheld hbehind
      rw [hreceived, List.append_nil] at hheld'
      rw [hstores]
      exact .raised c hpc hflags (hdrop.trans hempty)
        ⟨hrests, hsent, hresponse, hblank, hanswer⟩ hheld'
  | idle _ hflags | lowered _ _ hflags | gaveUp _ _ hflags
  | available _ _ hflags => cases hrx.symm.trans (congrArg Flags.rx hflags)
  | processing _ _ _ _ hserving | answering _ _ _ _ hserving =>
      cases hrx.symm.trans hserving.quiet.2.1

/-- The main loop takes the command that has come. -/
theorem invoke_inv {p : CmdParser} (hp : p.Bounded) {s t : State}
    (hs : Inv p s) (h : step p s .invoke = some t) : Inv p t := by
  obtain ⟨machine, host⟩ := s
  obtain ⟨m, hm, rfl⟩ := Option.map_eq_some_iff.mp h
  obtain ⟨⟨hpc, havailable⟩, rfl⟩ := Option.ite_some_none_eq_some.mp hm
  refine ⟨hs.served, ?_⟩
  cases hs.phase with
  | available c hhost hflags hline hsettled hheld =>
      obtain ⟨-, hsent, hresponse, hbehind, hanswer⟩ := hsettled
      dsimp only at hpc hflags hsent hresponse hbehind hheld
      have hbuff := receivedBuff_of_holds hheld hbehind
      obtain ⟨n, hserves⟩ := processCmd_serves hp c hbuff
      obtain ⟨loc, hstatements⟩ := HwModemHandshake.statements_processCmd p
        machine.modem machine.edgePending { machine.loc with cmdLength := 0xFF }
      rw [hserves] at hstatements
      refine .processing c _ hhost hline
        ⟨hstatements, rfl, ?_, ?_, ?_, hbehind, ?_, ?_⟩ hanswer
      · show ({ flags machine with ready := true, available := false, busy := true }
          : Flags) = _
        rw [hflags]
      · dsimp only
        rw [hsent, hresponse]
      · dsimp only
        rw [hresponse]
      · exact ⟨congrArg Flags.edge hflags, congrArg Flags.rx hflags,
          congrArg Flags.command hflags⟩
      · intro hbusy
        cases hbusy.symm.trans (congrArg Flags.busy hflags)
  | idle _ hflags | lowered _ _ hflags | gaveUp _ _ hflags | opened _ _ hflags
  | receiving _ _ _ hflags | raised _ _ hflags =>
      cases havailable.symm.trans (congrArg Flags.available hflags)
  | processing _ _ _ _ hserving | answering _ _ _ _ hserving =>
      have hfinal := statements_rests hserving.statements hserving.idle
        (Or.inl hpc)
      have hflags := hserving.flags
      rw [hfinal] at hflags
      cases havailable.symm.trans (congrArg Flags.available hflags)

/-- Between exchanges a statement can only be the return of an invocation. -/
theorem Settled.returned {p : CmdParser} {m : Machine} {h : Host}
    (hs : Settled p ⟨m, h⟩) : Settled p ⟨{ m with pc := .idle }, h⟩ :=
  ⟨Or.inl rfl, hs.sent, hs.response, hs.behind, hs.answer⟩

theorem Serving.statement {p : CmdParser} {m t : Machine} {h : Host}
    {c : Command} {final : Machine} (hs : Serving p ⟨m, h⟩ c final)
    (ht : HwModemHandshake.statement p m = some t) :
    Serving p ⟨t, h⟩ c final := by
  obtain ⟨hedge, hrx, hcommand⟩ := statement_receiver ht
  exact
    { statements := statements_next hs.statements hs.idle ht
      idle := hs.idle
      flags := hs.flags
      sent := hs.sent
      response := hs.response
      behind := hs.behind
      quiet := ⟨hedge.trans hs.quiet.1, hrx.trans hs.quiet.2.1,
        hcommand.trans hs.quiet.2.2⟩
      busy := (statement_answering ht).2 hs.busy }

theorem statement_inv {p : CmdParser} {s t : State} (hs : Inv p s)
    (h : step p s .statement = some t) : Inv p t := by
  obtain ⟨machine, host⟩ := s
  obtain ⟨m, hm, rfl⟩ := Option.map_eq_some_iff.mp h
  refine ⟨hs.served, ?_⟩
  cases hs.phase with
  | idle hpc hflags hline hsettled =>
      obtain rfl := rests_statement hsettled.rests hm
      exact .idle hpc hflags hline hsettled.returned
  | lowered c hpc hflags hline hsettled =>
      obtain rfl := rests_statement hsettled.rests hm
      exact .lowered c hpc hflags hline hsettled.returned
  | gaveUp c hpc hflags hline hsettled =>
      obtain rfl := rests_statement hsettled.rests hm
      exact .gaveUp c hpc hflags hline hsettled.returned
  | opened c hpc hflags hline hsettled hheld =>
      obtain rfl := rests_statement hsettled.rests hm
      exact .opened c hpc hflags hline hsettled.returned hheld
  | receiving c bs hpc hflags hline hsettled hheld =>
      obtain rfl := rests_statement hsettled.rests hm
      exact .receiving c bs hpc hflags hline hsettled.returned hheld
  | raised c hpc hflags hline hsettled hheld =>
      obtain rfl := rests_statement hsettled.rests hm
      exact .raised c hpc hflags hline hsettled.returned hheld
  | available c hpc hflags hline hsettled hheld =>
      obtain rfl := rests_statement hsettled.rests hm
      exact .available c hpc hflags hline hsettled.returned hheld
  | processing c final hpc hline hserving hanswer =>
      exact .processing c final hpc hline (hserving.statement hm) hanswer
  | answering c final hpc hline hserving hanswering hanswer hopen =>
      exact .answering c final hpc hline (hserving.statement hm)
        ((statement_answering hm).1 hanswering) hanswer hopen

/-! ## Every conversation -/

theorem step_inv {p : CmdParser} (hp : p.Bounded) {s t : State} {e : Event}
    (hs : Inv p s) (h : step p s e = some t) : Inv p t := by
  cases e with
  | lowerCommand c => exact lowerCommand_inv hs h
  | seeReady => exact seeReady_inv hs h
  | raiseCommand => exact raiseCommand_inv hs h
  | seeAnswer => exact seeAnswer_inv hs h
  | readByte => exact readByte_inv hp hs h
  | wakeup => exact wakeup_inv hs h
  | uart => exact uart_inv hs h
  | invoke => exact invoke_inv hp hs h
  | statement => exact statement_inv hs h

theorem Inv.run {p : CmdParser} (hp : p.Bounded) {es : List Event} {s t : State}
    (hs : Inv p s) (h : run (step p) s es = some t) : Inv p t :=
  run_invariant (Inv p) (fun _ => True) (fun _ _ _ _ hs he => step_inv hp hs he)
    (fun _ _ => trivial) hs h

/-- **THE MODEM IS A SERVER**: in every conversation with a host that follows the
    lines, the responses the host has read are the answers to its commands, one to
    each, in their order. -/
theorem responses_served (p : CmdParser) (hp : p.Bounded) (es : List Event)
    (s : State) (h : run (step p) initial es = some s) :
    s.host.responses = (serve p s.host.answered).1 :=
  ((inv_initial p).run hp h).served

/-- The empty command `0x10`. -/
def emptyCommand : Command := ⟨⟨0x10, [], by decide⟩, by decide⟩

/-- It is sent in two pieces, and its answer read before the function has
    returned. -/
def emptyExchange : List Event :=
  [.lowerCommand emptyCommand, .wakeup false true, .seeReady,
    .uart ⟨true, true, [0x10]⟩, .uart ⟨true, true, [0x00, 0x10]⟩,
    .raiseCommand, .wakeup false true, .invoke]
    ++ List.replicate 22 .statement
    ++ [.seeAnswer, .readByte, .readByte, .readByte]

theorem responses_served_emptyExchange :
    ((run (step silentParser) initial emptyExchange).get (by decide)).host.responses
      = (serve silentParser ((run (step silentParser) initial emptyExchange).get
          (by decide)).host.answered).1 :=
  responses_served silentParser (fun _ _ => Nat.zero_le _) emptyExchange _
    (Option.some_get _).symm

end HwModemConversation
