import UspZephyr.ByteMemoryProofs
import UspZephyr.XorFrameProofs

/-! # The hardware modem: receiving a command and answering it

    The modem receives a command frame into a buffer filled with `0xFF` and
    judges it without looking at how many bytes arrived: missing bytes read as
    `0xFF`, and bytes after the frame show only when the first of them is not
    `0xFF`.  `processCmd_accepts_iff` says exactly for which byte sequences that
    guess is right.

    The answer goes out with a checksum that starts from the checksum of the
    command, so it is a valid frame exactly when the latter is zero
    (`response_valid_iff`).

    The command parser is outside this tree; it is a parameter. -/

namespace HwModem

open ByteMemory XorFrame

/-- `HW_MODEM_RX_BUFF_MAX_LENGTH`. -/
def hwModemRxBuffMaxLength : Nat := 261

/-- `hw_modem_lp_mode_t`. -/
inductive LpMode where
  | enable
  | disableOnce
  | disable
  deriving DecidableEq, Repr

/-- The static state of `hw_modem.c`, its two lines, its UART and the semaphore
    of the main loop. -/
structure Modem where
  modemReceivedBuff : Nat → UInt8
  receivedLength : Nat
  modemResponseBuff : Nat → UInt8
  responseLength : Nat
  hwCmdAvailable : Bool
  isHwModemReadyToReceive : Bool
  lpMode : LpMode
  /-- Level of the BUSY line. -/
  busy : Bool
  /-- Level of the COMMAND line. -/
  command : Bool
  uartRxEnabled : Bool
  /-- Everything sent on the UART. -/
  uartTx : List UInt8
  /-- `lbm_main_loop_sem` is available. -/
  mainLoopSem : Bool

/-- `cmd_input_t`. -/
structure CmdInput where
  cmdCode : UInt8
  length : UInt8
  buffer : Nat → UInt8

/-- `cmd_response_t`, with the bytes the parser left behind `buffer`. -/
structure CmdResponse where
  returnCode : UInt8
  length : Nat
  buffer : Nat → UInt8

/-- The command parser: `parse_cmd`, from its input and the response bytes it
    finds, and the code `CMD_RC_FRAME_ERROR`.  The response memory has no end here,
    is handed to the parser and comes back from it, so that what lies behind the
    buffer stands for the state that the parser keeps from one command to the
    next. -/
structure CmdParser where
  parseCmd : CmdInput → (Nat → UInt8) → CmdResponse
  cmdRcFrameError : UInt8

/-- One byte stored in a buffer. -/
def setByte (buf : Nat → UInt8) (i : Nat) (b : UInt8) : Nat → UInt8 :=
  splice buf i 1 (fun _ => b)

theorem setByte_same (buf : Nat → UInt8) (i : Nat) (b : UInt8) :
    setByte buf i b i = b :=
  splice_inside (Nat.le_refl i) (Nat.lt_succ_self i)

theorem setByte_other (buf : Nat → UInt8) {i j : Nat} (b : UInt8)
    (h : j ≠ i) : setByte buf i b j = buf j :=
  splice_outside (by omega)

/-! ## Reception -/

/-- The body of the FIFO loop in `uart_irq_rx_callback_handler`. -/
def storeReceivedByte (m : Modem) (c : UInt8) : Modem :=
  if m.receivedLength = hwModemRxBuffMaxLength then m
  else
    { m with
      modemReceivedBuff := setByte m.modemReceivedBuff m.receivedLength c
      receivedLength := m.receivedLength + 1 }

/-- One UART interrupt: what `uart_irq_update` and `uart_irq_rx_ready` return
    and the bytes in the FIFO. -/
structure UartIrq where
  irqUpdate : Bool
  rxReady : Bool
  fifo : List UInt8

/-- The bytes the handler reads. -/
def UartIrq.received (u : UartIrq) : List UInt8 :=
  if u.irqUpdate && u.rxReady then u.fifo else []

/-- `uart_irq_rx_callback_handler`. -/
def uartIrqRxCallbackHandler (u : UartIrq) (m : Modem) : Modem :=
  if u.irqUpdate then
    if u.rxReady then u.fifo.foldl storeReceivedByte m else m
  else m

/-- `hw_modem_start_reception`; `rxReady` and `irqUpdate` are what the UART
    driver returns. -/
def hwModemStartReception (rxReady irqUpdate : Bool) (m : Modem) : Modem :=
  let filled :=
    { m with
      modemReceivedBuff :=
        splice m.modemReceivedBuff 0 hwModemRxBuffMaxLength (fun _ => 0xFF)
      receivedLength := 0
      isHwModemReadyToReceive := false }
  -- a stale event that cannot be updated: give up with the receiver closed
  if rxReady && !irqUpdate then filled
  else { filled with uartRxEnabled := true, busy := false }

/-- `wakeup_line_irq_handler`. -/
def wakeupLineIrqHandler (rxReady irqUpdate : Bool) (m : Modem) : Modem :=
  let started :=
    if m.isHwModemReadyToReceive && !m.command then
      { hwModemStartReception rxReady irqUpdate m with lpMode := .disable }
    else m
  if !started.isHwModemReadyToReceive && started.command then
    { started with
      uartRxEnabled := false
      hwCmdAvailable := true
      mainLoopSem := true
      lpMode := .disableOnce }
  else started

/-! ## Processing -/

/-- What is answered to a command, and the input the parser was given. -/
structure Answer where
  rcCode : UInt8
  responseLength : Nat
  responseBuff : Nat → UInt8
  parsed : Option CmdInput

/-- The three branches of `hw_modem_process_cmd` on a received command. -/
def answerCmd (p : CmdParser) (received response : Nat → UInt8) : Answer :=
  let cmdLength := received 1
  let calculatedCrc := xorLoop 0 received (cmdLength.toNat + 2)
  let cmdCrc := received (cmdLength.toNat + 2)
  if calculatedCrc ≠ cmdCrc then ⟨p.cmdRcFrameError, 0, response, none⟩
  else if received (cmdLength.toNat + 3) ≠ 0xFF ∧ cmdLength ≠ 0xFF then
    -- too many commands enqueued
    ⟨p.cmdRcFrameError, 0, response, none⟩
  else
    let input : CmdInput := ⟨received 0, cmdLength, fun i => received (2 + i)⟩
    let output := p.parseCmd input (fun i => response (2 + i))
    ⟨output.returnCode, output.length,
      fun i => if i < 2 then response i else output.buffer (i - 2), some input⟩

/-- The response buffer as it is sent, with `crc` the value the checksum
    variable has when the response loop starts. -/
def sealResponse (crc : UInt8) (a : Answer) : Nat → UInt8 :=
  let header := setByte (setByte a.responseBuff 0 a.rcCode) 1
    (UInt8.ofNat a.responseLength)
  setByte header (a.responseLength + 2)
    (xorLoop crc header (a.responseLength + 2))

/-- `hw_modem_process_cmd`, uninterrupted, and the input `parse_cmd` was called
    with, if it was. -/
def hwModemProcessCmd (p : CmdParser) (m : Modem) : Modem × Option CmdInput :=
  if m.modemReceivedBuff 0 < 0xFF then
    let a := answerCmd p m.modemReceivedBuff m.modemResponseBuff
    -- the variable still holds the checksum of the command
    let crc := xorLoop 0 m.modemReceivedBuff
      ((m.modemReceivedBuff 1).toNat + 2)
    let response := sealResponse crc a
    ({ m with
        responseLength := a.responseLength
        modemResponseBuff := response
        isHwModemReadyToReceive := true
        hwCmdAvailable := false
        busy := true
        uartTx := m.uartTx ++ firstBytes response (a.responseLength + 3) },
      a.parsed)
  else
    ({ m with
        isHwModemReadyToReceive := true
        hwCmdAvailable := false
        busy := true },
      none)

/-! ## What the buffer holds -/

/-- A byte is below `0xFF` when it is not `0xFF`. -/
theorem lt_blank_iff (b : UInt8) : b < 0xFF ↔ b ≠ 0xFF := by
  rw [UInt8.lt_iff_toNat_lt, Ne, ← UInt8.toNat_inj]
  have := b.toNat_lt
  show b.toNat < 255 ↔ ¬ b.toNat = 255
  omega

/-- The buffer holds the bytes received so far over its `0xFF` filling. -/
structure Holds (m : Modem) (bs : List UInt8) : Prop where
  length : m.receivedLength = min bs.length hwModemRxBuffMaxLength
  byte : ∀ i, i < hwModemRxBuffMaxLength → m.modemReceivedBuff i = padded bs i

/-- Starting a reception empties the buffer, also when it gives up. -/
theorem startReception_holds (rxReady irqUpdate : Bool) (m : Modem) :
    Holds (hwModemStartReception rxReady irqUpdate m) [] := by
  have hbyte : ∀ i, i < hwModemRxBuffMaxLength →
      splice m.modemReceivedBuff 0 hwModemRxBuffMaxLength
        (fun _ => (0xFF : UInt8)) i = padded [] i := by
    intro i hi
    rw [splice_inside (Nat.zero_le i) (by omega)]
    rfl
  rw [hwModemStartReception]
  cases hgive : rxReady && !irqUpdate with
  | true => exact ⟨rfl, hbyte⟩
  | false => exact ⟨rfl, hbyte⟩

/-- One more byte. -/
theorem storeReceivedByte_holds {m : Modem} {bs : List UInt8} (h : Holds m bs)
    (c : UInt8) : Holds (storeReceivedByte m c) (bs ++ [c]) := by
  have hlen := h.length
  rw [storeReceivedByte]
  by_cases hfull : m.receivedLength = hwModemRxBuffMaxLength
  · -- the buffer is full: the byte is dropped, and would not have fitted
    rw [if_pos hfull]
    constructor
    · rw [List.length_append, List.length_singleton]
      omega
    · intro i hi
      rw [h.byte i hi, padded_of_lt (by omega),
        padded_of_lt (by rw [List.length_append]; omega),
        List.getElem_append_left]
  · rw [if_neg hfull]
    have hroom : m.receivedLength = bs.length := by omega
    constructor
    · show m.receivedLength + 1 = _
      rw [List.length_append, List.length_singleton]
      omega
    · intro i hi
      show setByte m.modemReceivedBuff m.receivedLength c i = _
      rcases Nat.lt_trichotomy i bs.length with hlt | heq | hgt
      · rw [setByte_other _ _ (by omega), h.byte i hi, padded_of_lt hlt,
          padded_of_lt (by rw [List.length_append]; omega),
          List.getElem_append_left]
      · rw [hroom, ← heq, setByte_same,
          padded_of_lt (by rw [List.length_append, List.length_singleton]; omega)]
        simp [heq]
      · rw [setByte_other _ _ (by omega), h.byte i hi,
          padded_of_le (by omega), padded_of_le]
        rw [List.length_append, List.length_singleton]
        omega

theorem foldl_storeReceivedByte_holds {m : Modem} {bs : List UInt8}
    (h : Holds m bs) (cs : List UInt8) :
    Holds (cs.foldl storeReceivedByte m) (bs ++ cs) := by
  induction cs generalizing m bs with
  | nil => simpa using h
  | cons c cs ih =>
      have := ih (storeReceivedByte_holds h c)
      rwa [List.append_assoc] at this

/-- One UART interrupt. -/
theorem uartIrq_holds {m : Modem} {bs : List UInt8} (h : Holds m bs)
    (u : UartIrq) :
    Holds (uartIrqRxCallbackHandler u m) (bs ++ u.received) := by
  rw [uartIrqRxCallbackHandler, UartIrq.received]
  cases u.irqUpdate with
  | false => simpa using h
  | true =>
      cases u.rxReady with
      | false => simpa using h
      | true => exact foldl_storeReceivedByte_holds h u.fifo

/-- A whole reception: the buffer prepared, any UART interrupts, and the handler
    run for the COMMAND line back at 1. -/
def reception (rxReady irqUpdate : Bool) (us : List UartIrq) (m : Modem) :
    Modem :=
  let received := us.foldl (fun m u => uartIrqRxCallbackHandler u m)
    (hwModemStartReception rxReady irqUpdate m)
  wakeupLineIrqHandler rxReady irqUpdate { received with command := true }

theorem foldl_uartIrq_holds {m : Modem} {bs : List UInt8} (h : Holds m bs)
    (us : List UartIrq) :
    Holds (us.foldl (fun m u => uartIrqRxCallbackHandler u m) m)
      (bs ++ us.flatMap UartIrq.received) := by
  induction us generalizing m bs with
  | nil => simpa using h
  | cons u us ih =>
      have := ih (uartIrq_holds h u)
      rwa [List.append_assoc] at this

/-- The handler does not touch the buffer when the line is at 1. -/
theorem wakeupLineIrqHandler_high (rxReady irqUpdate : Bool) {m : Modem}
    (h : m.command = true) :
    (wakeupLineIrqHandler rxReady irqUpdate m).modemReceivedBuff
        = m.modemReceivedBuff
      ∧ (wakeupLineIrqHandler rxReady irqUpdate m).receivedLength
        = m.receivedLength := by
  cases hr : m.isHwModemReadyToReceive with
  | true => simp [wakeupLineIrqHandler, hr, h]
  | false => simp [wakeupLineIrqHandler, hr, h]

/-- After a reception the buffer holds the bytes received. -/
theorem reception_holds (rxReady irqUpdate : Bool) (us : List UartIrq)
    (m : Modem) :
    Holds (reception rxReady irqUpdate us m) (us.flatMap UartIrq.received) := by
  have h := foldl_uartIrq_holds (startReception_holds rxReady irqUpdate m) us
  rw [List.nil_append] at h
  rw [reception]
  generalize us.foldl (fun m u => uartIrqRxCallbackHandler u m)
    (hwModemStartReception rxReady irqUpdate m) = received at h
  have hhigh : _ ∧ _ := wakeupLineIrqHandler_high rxReady irqUpdate
    (rfl : { received with command := true }.command = true)
  exact ⟨hhigh.2.trans h.length, fun i hi =>
    (congrFun hhigh.1 i).trans (h.byte i hi)⟩

/-! ## When the parser is called -/

/-- The frame the parser is handed. -/
def CmdInput.frame (c : CmdInput) : Frame where
  id := c.cmdCode
  payload := firstBytes c.buffer c.length.toNat
  payload_lt := by
    rw [length_firstBytes]
    exact c.length.toNat_lt

/-- What `hw_modem_process_cmd` tests before it calls the parser. -/
def Accepts (buf : Nat → UInt8) : Prop :=
  buf 0 ≠ 0xFF
    ∧ xorLoop 0 buf ((buf 1).toNat + 2) = buf ((buf 1).toNat + 2)
    ∧ (buf ((buf 1).toNat + 3) = 0xFF ∨ buf 1 = 0xFF)

/-- The parser runs the frame `f`. -/
def Runs (parsed : Option CmdInput) (f : Frame) : Prop :=
  ∃ input, parsed = some input ∧ input.frame = f

/-- The checksum is right, and no byte shows behind it. -/
def WellEnded (buf : Nat → UInt8) : Prop :=
  xorLoop 0 buf ((buf 1).toNat + 2) = buf ((buf 1).toNat + 2)
    ∧ (buf ((buf 1).toNat + 3) = 0xFF ∨ buf 1 = 0xFF)

/-- A command that ends well is answered by the parser. -/
theorem answerCmd_accepted (p : CmdParser) {received : Nat → UInt8}
    (h : WellEnded received) (response : Nat → UInt8) :
    ∃ buff, answerCmd p received response
      = ⟨(p.parseCmd ⟨received 0, received 1, fun i => received (2 + i)⟩
            (fun i => response (2 + i))).returnCode,
          (p.parseCmd ⟨received 0, received 1, fun i => received (2 + i)⟩
            (fun i => response (2 + i))).length,
          buff, some ⟨received 0, received 1, fun i => received (2 + i)⟩⟩ := by
  obtain ⟨hcrc, hblank⟩ := h
  have hextra : ¬ (received ((received 1).toNat + 3) ≠ 0xFF
      ∧ received 1 ≠ 0xFF) := by
    rintro ⟨h1, h2⟩
    rcases hblank with h | h
    · exact h1 h
    · exact h2 h
  rw [answerCmd, if_neg (not_not_intro hcrc), if_neg hextra]
  exact ⟨_, rfl⟩

/-- Any other is answered with a frame error. -/
theorem answerCmd_rejected (p : CmdParser) {received : Nat → UInt8}
    (h : ¬ WellEnded received) (response : Nat → UInt8) :
    answerCmd p received response = ⟨p.cmdRcFrameError, 0, response, none⟩ := by
  rw [answerCmd]
  by_cases hcrc : xorLoop 0 received ((received 1).toNat + 2)
      = received ((received 1).toNat + 2)
  · rw [if_neg (not_not_intro hcrc), if_pos]
    constructor
    · intro hblank
      exact h ⟨hcrc, Or.inl hblank⟩
    · intro hmax
      exact h ⟨hcrc, Or.inr hmax⟩
  · rw [if_pos hcrc]

/-- The parser is called on an accepted buffer, with the frame it announces. -/
theorem processCmd_runs_iff (p : CmdParser) (m : Modem) (f : Frame) :
    Runs (hwModemProcessCmd p m).2 f
      ↔ Accepts m.modemReceivedBuff ∧ ofBuffer m.modemReceivedBuff = f := by
  by_cases h : Accepts m.modemReceivedBuff
  · obtain ⟨buff, ha⟩ := answerCmd_accepted p h.2 m.modemResponseBuff
    rw [hwModemProcessCmd, if_pos ((lt_blank_iff _).mpr h.1), ha]
    constructor
    · rintro ⟨input, hinput, hf⟩
      cases hinput
      exact ⟨h, hf⟩
    · rintro ⟨_, hf⟩
      exact ⟨_, rfl, hf⟩
  · have hnone : (hwModemProcessCmd p m).2 = none := by
      rw [hwModemProcessCmd]
      by_cases hid : m.modemReceivedBuff 0 < 0xFF
      · have hend : ¬ WellEnded m.modemReceivedBuff :=
          fun hend => h ⟨(lt_blank_iff _).mp hid, hend⟩
        rw [if_pos hid, answerCmd_rejected p hend]
      · rw [if_neg hid]
    rw [hnone]
    constructor
    · rintro ⟨_, hinput, _⟩
      exact absurd hinput nofun
    · rintro ⟨hacc, _⟩
      exact absurd hacc h

/-- The received bytes, extended with `0xFF`, start with the frame `f`, and the
    byte after it reads as not received. -/
def StartsWith (bs : List UInt8) (f : Frame) : Prop :=
  firstBytes (padded bs) (f.payload.length + 3) = f.bytes
    ∧ (padded bs (f.payload.length + 3) = 0xFF ∨ f.payload.length = 255)

/-- A length byte is `0xFF` when the length is 255. -/
theorem eq_blank_iff (b : UInt8) : b = 0xFF ↔ b.toNat = 255 := by
  rw [← UInt8.toNat_inj]
  rfl

/-- Acceptance in terms of the received bytes. -/
theorem accepts_iff {buf : Nat → UInt8} {bs : List UInt8}
    (h : ∀ i, i < hwModemRxBuffMaxLength → buf i = padded bs i) (f : Frame) :
    (Accepts buf ∧ ofBuffer buf = f) ↔ f.id ≠ 0xFF ∧ StartsWith bs f := by
  -- the code never looks beyond index 258
  have hcongr : ∀ n, n < 256 →
      firstBytes buf (n + 3) = firstBytes (padded bs) (n + 3) := by
    intro n hn
    refine firstBytes_congr ?_
    intro i hi
    have : n + 3 ≤ hwModemRxBuffMaxLength := by
      rw [hwModemRxBuffMaxLength]
      omega
    exact h i (by omega)
  have hnext : ∀ n, n < 256 → buf (n + 3) = padded bs (n + 3) := by
    intro n hn
    refine h _ ?_
    rw [hwModemRxBuffMaxLength]
    omega
  constructor
  · rintro ⟨⟨hid, hcrc, hblank⟩, hf⟩
    have hbytes := (ofBuffer_bytes_iff buf).mpr hcrc
    have hn : f.payload.length = (buf 1).toNat := by
      rw [← hf]
      exact length_firstBytes _ _
    have hlt := (buf 1).toNat_lt
    refine ⟨hf ▸ hid, ?_, ?_⟩
    · rw [hn, ← hcongr _ hlt, hbytes, hf]
    · rw [hn, ← hnext _ hlt, ← eq_blank_iff]
      exact hblank
  · rintro ⟨hid, hbytes, hblank⟩
    rw [← hcongr _ f.payload_lt] at hbytes
    rw [← hnext _ f.payload_lt] at hblank
    obtain ⟨hf, hn⟩ := ofBuffer_eq_of_prefix hbytes
    rw [← hn] at hbytes hblank
    refine ⟨⟨?_, ?_, ?_⟩, hf⟩
    · rw [← hf] at hid
      exact hid
    · exact (ofBuffer_bytes_iff buf).mp (hf ▸ hbytes)
    · rwa [eq_blank_iff (buf 1)]

/-- Frames the parser runs after a reception. -/
theorem reception_runs_iff (p : CmdParser) (rxReady irqUpdate : Bool)
    (us : List UartIrq) (m : Modem) (f : Frame) :
    Runs (hwModemProcessCmd p (reception rxReady irqUpdate us m)).2 f
      ↔ f.id ≠ 0xFF ∧ StartsWith (us.flatMap UartIrq.received) f := by
  rw [processCmd_runs_iff]
  exact accepts_iff (reception_holds rxReady irqUpdate us m).byte f

/-- The received bytes are a frame whose missing last bytes are all `0xFF`. -/
def TruncatedBlank (bs : List UInt8) : Prop :=
  ∃ f : Frame, ∃ k, f.id ≠ 0xFF ∧ 0 < k ∧ bs ++ List.replicate k 0xFF = f.bytes

/-- The received bytes are a frame and more, and the first byte too many is
    `0xFF` or the payload has the greatest length. -/
def TrailingBlank (bs : List UInt8) : Prop :=
  ∃ f : Frame, ∃ b rest, f.id ≠ 0xFF ∧ bs = f.bytes ++ b :: rest
    ∧ (b = 0xFF ∨ f.payload.length = 255)

/-- A complete frame is seen as such. -/
theorem startsWith_bytes (f : Frame) : StartsWith f.bytes f := by
  have hlen : f.payload.length + 3 = f.bytes.length := f.length_bytes.symm
  refine ⟨?_, Or.inl ?_⟩
  · rw [hlen, firstBytes_padded_take (Nat.le_refl _), List.take_length]
  · exact padded_of_le (Nat.le_of_eq hlen.symm)

/-- So is one whose missing bytes are `0xFF`. -/
theorem startsWith_truncated {bs : List UInt8} {f : Frame} {k : Nat}
    (h : bs ++ List.replicate k 0xFF = f.bytes) : StartsWith bs f := by
  have hlen : f.payload.length + 3 = bs.length + k := by
    rw [← f.length_bytes, ← h, List.length_append, List.length_replicate]
  refine ⟨?_, Or.inl (padded_of_le (by omega))⟩
  rw [hlen, firstBytes_padded_append, h]

/-- So is one followed by a byte that does not show. -/
theorem startsWith_trailing {f : Frame} {b : UInt8} {rest : List UInt8}
    (h : b = 0xFF ∨ f.payload.length = 255) :
    StartsWith (f.bytes ++ b :: rest) f := by
  have hlen : f.payload.length + 3 = f.bytes.length := f.length_bytes.symm
  constructor
  · rw [hlen, firstBytes_padded_take (by rw [List.length_append]; omega),
      List.take_left']
    rfl
  · rcases h with hb | hmax
    · left
      rw [hlen, padded_of_lt (by simp), List.getElem_append_right (Nat.le_refl _)]
      simpa using hb
    · exact Or.inr hmax

/-- There is no other way. -/
theorem startsWith_cases {bs : List UInt8} {f : Frame} (hid : f.id ≠ 0xFF)
    (h : StartsWith bs f) :
    bs = f.bytes ∨ TruncatedBlank bs ∨ TrailingBlank bs := by
  obtain ⟨hbytes, hblank⟩ := h
  rcases Nat.lt_trichotomy bs.length (f.payload.length + 3) with hlt | heq | hgt
  · -- too few bytes: the rest of the frame is filling
    right; left
    obtain ⟨k, hk⟩ := Nat.le.dest (Nat.le_of_lt hlt)
    refine ⟨f, k, hid, by omega, ?_⟩
    rw [← firstBytes_padded_append, hk, hbytes]
  · left
    rw [← hbytes, ← heq, firstBytes_padded_take (Nat.le_refl _),
      List.take_length]
  · -- too many: the first of them does not show
    right; right
    rw [firstBytes_padded_take (Nat.le_of_lt hgt)] at hbytes
    rw [padded_of_lt hgt] at hblank
    refine ⟨f, bs[f.payload.length + 3], bs.drop (f.payload.length + 4), hid,
      ?_, hblank⟩
    rw [← hbytes, ← List.drop_eq_getElem_cons hgt, List.take_append_drop]

/-- The parser is called exactly on the frames received, and with them. -/
def AcceptsExactly (parsed : Option CmdInput) (bs : List UInt8) : Prop :=
  ∀ f : Frame, Runs parsed f ↔ f.id ≠ 0xFF ∧ bs = f.bytes

/-- **THE PARSER RUNS EXACTLY THE FRAMES RECEIVED unless blank bytes hide what
    is missing or what is too much.**  The two exceptions are a frame whose
    missing bytes are all `0xFF`, and a frame followed by `0xFF`, or by anything
    when its payload has 255 bytes. -/
theorem processCmd_accepts_iff (p : CmdParser) (rxReady irqUpdate : Bool)
    (us : List UartIrq) (m : Modem) :
    AcceptsExactly (hwModemProcessCmd p (reception rxReady irqUpdate us m)).2
        (us.flatMap UartIrq.received)
      ↔ ¬ TruncatedBlank (us.flatMap UartIrq.received)
        ∧ ¬ TrailingBlank (us.flatMap UartIrq.received) := by
  have hruns := reception_runs_iff p rxReady irqUpdate us m
  generalize us.flatMap UartIrq.received = bs at hruns ⊢
  constructor
  · intro hexact
    have hbs : ∀ f : Frame, f.id ≠ 0xFF → StartsWith bs f → bs = f.bytes :=
      fun f hid hs => ((hexact f).mp ((hruns f).mpr ⟨hid, hs⟩)).2
    constructor
    · rintro ⟨f, k, hid, hk, hf⟩
      have heq := congrArg List.length (hbs f hid (startsWith_truncated hf))
      have := congrArg List.length hf
      rw [List.length_append, List.length_replicate] at this
      omega
    · rintro ⟨f, b, rest, hid, hf, hb⟩
      have heq := congrArg List.length
        (hbs f hid (hf ▸ startsWith_trailing hb))
      rw [hf, List.length_append, List.length_cons] at heq
      omega
  · rintro ⟨htrunc, htrail⟩ f
    rw [hruns f]
    constructor
    · rintro ⟨hid, hs⟩
      rcases startsWith_cases hid hs with h | h | h
      · exact ⟨hid, h⟩
      · exact absurd h htrunc
      · exact absurd h htrail
    · rintro ⟨hid, h⟩
      exact ⟨hid, h ▸ startsWith_bytes f⟩

/-! ## Blank bytes hide the end of a frame -/

/-- A parser that answers code 0 and no data to everything. -/
def silentParser : CmdParser where
  parseCmd := fun _ response => ⟨0, 0, response⟩
  cmdRcFrameError := 0x0A

/-- The modem after `hw_modem_init`. -/
def initialModem : Modem where
  modemReceivedBuff := fun _ => 0
  receivedLength := 0
  modemResponseBuff := fun _ => 0
  responseLength := 0
  hwCmdAvailable := false
  isHwModemReadyToReceive := true
  lpMode := .enable
  busy := true
  command := true
  uartRxEnabled := false
  uartTx := []
  mainLoopSem := false

/-- A command received in one UART interrupt and processed. -/
def processed (bs : List UInt8) : Modem × Option CmdInput :=
  hwModemProcessCmd silentParser
    (reception false true [⟨true, true, bs⟩] initialModem)

/-- Command `0x10` with payload `0xEE` has checksum `0xFF` and runs without it;
    the empty command `0x10` runs with a `0xFF` behind it. -/
theorem blank_bytes_hide_frame_end :
    ¬ AcceptsExactly (processed [0x10, 0x01, 0xEE]).2 [0x10, 0x01, 0xEE]
      ∧ ¬ AcceptsExactly (processed [0x10, 0x00, 0x10, 0xFF]).2
          [0x10, 0x00, 0x10, 0xFF] := by
  constructor
  · intro h
    have hrun : Runs (processed [0x10, 0x01, 0xEE]).2
        ⟨0x10, [0xEE], by decide⟩ := ⟨_, rfl, rfl⟩
    exact absurd ((h _).mp hrun).2 (by decide)
  · intro h
    have hrun : Runs (processed [0x10, 0x00, 0x10, 0xFF]).2
        ⟨0x10, [], by decide⟩ := ⟨_, rfl, rfl⟩
    exact absurd ((h _).mp hrun).2 (by decide)

/-! ## The response -/

/-- The frame that answers: the return code and the parser's output. -/
def Answer.IsFrame (a : Answer) (f : Frame) : Prop :=
  f.id = a.rcCode
    ∧ f.payload = firstBytes (fun i => a.responseBuff (2 + i)) a.responseLength

/-- The parser's outputs fit the length byte. -/
def CmdParser.Bounded (p : CmdParser) : Prop :=
  ∀ input response, (p.parseCmd input response).length ≤ 255

theorem answerCmd_responseLength {p : CmdParser} (hp : p.Bounded)
    (received response : Nat → UInt8) :
    (answerCmd p received response).responseLength ≤ 255 := by
  by_cases h : WellEnded received
  · obtain ⟨buff, ha⟩ := answerCmd_accepted p h response
    rw [ha]
    exact hp _ _
  · rw [answerCmd_rejected p h]
    exact Nat.zero_le _

/-- The response without its checksum byte. -/
def responseHeader (a : Answer) : Nat → UInt8 :=
  setByte (setByte a.responseBuff 0 a.rcCode) 1 (UInt8.ofNat a.responseLength)

/-- The header and the payload are the body of the answering frame. -/
theorem responseHeader_body {a : Answer} {f : Frame} (h : a.IsFrame f) :
    firstBytes (responseHeader a) (a.responseLength + 2) = f.body := by
  obtain ⟨hid, hpay⟩ := h
  have hrest : (fun i => responseHeader a (2 + i))
      = fun i => a.responseBuff (2 + i) := by
    funext i
    rw [responseHeader, setByte_other _ _ (by omega),
      setByte_other _ _ (by omega)]
  have hzero : responseHeader a 0 = a.rcCode := by
    rw [responseHeader, setByte_other _ _ (by omega), setByte_same]
  have hone : responseHeader a 1 = UInt8.ofNat a.responseLength :=
    setByte_same _ _ _
  rw [firstBytes_add_two, hrest, hzero, hone, Frame.body, hid, hpay,
    length_firstBytes]

/-- What goes out: the body of the answering frame, and its checksum started
    from `crc`. -/
theorem sealResponse_sent (crc : UInt8) {a : Answer} {f : Frame}
    (h : a.IsFrame f) :
    firstBytes (sealResponse crc a) (a.responseLength + 3)
      = f.body ++ [crc ^^^ xorSum f.body] := by
  have hlast : sealResponse crc a (a.responseLength + 2)
      = crc ^^^ xorSum f.body := by
    show setByte _ _ (xorLoop crc (responseHeader a) _) _ = _
    rw [setByte_same, xorLoop_eq, responseHeader_body h]
  have hbefore : firstBytes (sealResponse crc a) (a.responseLength + 2)
      = f.body := by
    rw [← responseHeader_body h]
    refine firstBytes_congr ?_
    intro i hi
    exact setByte_other _ _ (Nat.ne_of_lt hi)
  rw [firstBytes_succ, hbefore, hlast]

/-- The bytes sent are the answering frame. -/
def ValidResponse (a : Answer) (sent : List UInt8) : Prop :=
  ∃ f : Frame, a.IsFrame f ∧ sent = f.bytes

/-- **A RESPONSE IS A VALID FRAME EXACTLY WHEN THE COMMAND'S OWN CHECKSUM IS
    ZERO.**  Whether the command was accepted does not matter. -/
theorem response_valid_iff (p : CmdParser) (hp : p.Bounded) (m : Modem)
    (hid : m.modemReceivedBuff 0 ≠ 0xFF) :
    ∃ sent, (hwModemProcessCmd p m).1.uartTx = m.uartTx ++ sent
      ∧ (ValidResponse
          (answerCmd p m.modemReceivedBuff m.modemResponseBuff) sent
        ↔ xorSum (firstBytes m.modemReceivedBuff
            ((m.modemReceivedBuff 1).toNat + 2)) = 0) := by
  have hlen := answerCmd_responseLength hp m.modemReceivedBuff
    m.modemResponseBuff
  rw [hwModemProcessCmd, if_pos ((lt_blank_iff _).mpr hid), xorLoop_eq,
    UInt8.zero_xor]
  generalize answerCmd p m.modemReceivedBuff m.modemResponseBuff = a at hlen ⊢
  generalize xorSum (firstBytes m.modemReceivedBuff
    ((m.modemReceivedBuff 1).toNat + 2)) = crc
  refine ⟨firstBytes (sealResponse crc a) (a.responseLength + 3), rfl, ?_⟩
  constructor
  · rintro ⟨f, hf, hsent⟩
    rw [sealResponse_sent crc hf] at hsent
    -- the same body, so the two checksum bytes agree
    have hlast := (List.cons.inj (List.append_cancel_left hsent)).1
    rw [← UInt8.xor_left_inj (xorSum f.body), hlast, UInt8.zero_xor]
  · intro hcrc
    let f : Frame :=
      ⟨a.rcCode, firstBytes (fun i => a.responseBuff (2 + i)) a.responseLength,
        by rw [length_firstBytes]; omega⟩
    have hf : a.IsFrame f := ⟨rfl, rfl⟩
    refine ⟨f, hf, ?_⟩
    rw [sealResponse_sent crc hf, hcrc, UInt8.zero_xor]
    rfl

/-- The empty command `0x10`, received into the reset modem. -/
def emptyCommand : Modem :=
  reception false true [⟨true, true, [0x10, 0x00, 0x10]⟩] initialModem

theorem response_valid_iff_emptyCommand :
    ∃ sent, (hwModemProcessCmd silentParser emptyCommand).1.uartTx
        = emptyCommand.uartTx ++ sent
      ∧ (ValidResponse (answerCmd silentParser emptyCommand.modemReceivedBuff
            emptyCommand.modemResponseBuff) sent
        ↔ xorSum (firstBytes emptyCommand.modemReceivedBuff
            ((emptyCommand.modemReceivedBuff 1).toNat + 2)) = 0) :=
  response_valid_iff silentParser (fun _ _ => Nat.zero_le _) emptyCommand
    (by decide)

/-- The empty command `0x10` is answered `00 00 10`, and no frame is that. -/
theorem response_checksum_wrong :
    (hwModemProcessCmd silentParser emptyCommand).1.uartTx = [0x00, 0x00, 0x10]
      ∧ ∀ a, ¬ ValidResponse a [0x00, 0x00, 0x10] := by
  refine ⟨by decide, ?_⟩
  rintro a ⟨f, _, hf⟩
  have hlen := congrArg List.length hf
  rw [f.length_bytes] at hlen
  obtain ⟨id, payload, hlt⟩ := f
  have hnil : payload = [] := List.eq_nil_of_length_eq_zero (by
    show payload.length = 0
    exact (Nat.succ.inj (Nat.succ.inj (Nat.succ.inj hlen))).symm)
  subst hnil
  have hid : (0x00 : UInt8) = id := (List.cons.inj hf).1
  subst hid
  exact absurd hf (by simp [Frame.bytes, Frame.body, xorSum])

end HwModem
