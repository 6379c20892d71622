import UspZephyr.HoareProofs
import UspZephyr.XorFrameProofs

/-! # The radio drivers and the sleeping radio

    The three drivers remember in `radio_status` whether the radio sleeps.  A
    sleeping radio holds BUSY high and must be woken by a pulse on NSS before
    anything is sent.  Every entry point that talks to the radio starts with
    `*_hal_check_device_ready`; `hal_write` is the only one that puts the radio
    to sleep.

    The world decides how long BUSY stays high, which SPI transfers fail and
    what is read.  A wait that outlasts its timeout ends in `k_oops` and does not
    return.  The device keeps a log of its transfers and waits; `Consistent` is
    the invariant of every call, and `radio_status_shadows_sleep` the result for
    whole sequences of calls. -/

namespace RadioHal

open Hoare XorFrame

/-! ## The device -/

/-- `data->radio_status`. -/
inductive RadioStatus where
  | sleep
  | awake
  deriving DecidableEq, Repr

/-- One transfer on SPI, or one entry of `*_hal_wait_on_busy`. -/
inductive LogEntry where
  | transfer (awake busySeenLow : Bool)
  | waitOnBusy (awake : Bool)
  deriving DecidableEq, Repr

/-- The driver's status variable and the radio.  `busySeenLow` tells whether
    BUSY was seen low since the last wake pulse, reset or transfer; the counters
    say how far the world's answers are used up. -/
structure Device where
  radioStatus : RadioStatus
  asleep : Bool
  busySeenLow : Bool
  waitCount : Nat
  spiCount : Nat
  log : List LogEntry

/-- One turn of the waiting loop: the uptime, and BUSY if the radio is awake. -/
structure Poll where
  uptime : UInt32
  busyHigh : Bool

/-- One call of the waiting function: the uptime on entry and the turns it
    gets. -/
structure Wait where
  start : UInt32
  polls : List Poll

/-- The answer to one SPI transfer. -/
structure SpiReply where
  failed : Bool
  rx : Nat → UInt8

/-- What the drivers cannot know: the waits, the SPI answers, and the configured
    timeout. -/
structure World where
  waits : Nat → Wait
  spi : Nat → SpiReply
  waitOnBusyTimeoutMsec : UInt32

/-- Why a call does not return. -/
inductive Stop where
  | oops
  | stillWaiting
  deriving DecidableEq, Repr

abbrev HalM := EStateM Stop Device

/-- `LR11XX_HAL_STATUS_*` and the same of the other drivers. -/
inductive HalStatus where
  | ok
  | error
  deriving DecidableEq, Repr

/-- A byte array and the length that goes with it. -/
structure Buffer where
  byte : Nat → UInt8
  length : Nat

def Buffer.bytes (b : Buffer) : List UInt8 := firstBytes b.byte b.length

def Buffer.empty : Buffer := ⟨fun _ => 0, 0⟩

def setRadioStatus (st : RadioStatus) : HalM Unit :=
  fun d => .ok () { d with radioStatus := st }

/-- The glitch on NSS. -/
def nssPulse : HalM Unit :=
  fun d => .ok () { d with asleep := false, busySeenLow := false }

/-- The pulse on the reset line. -/
def resetPulse : HalM Unit :=
  fun d => .ok () { d with asleep := false, busySeenLow := false }

/-- A transfer of `wire`; the radio obeys a successful SetSleep. -/
def spiTransfer (w : World) (setSleep wire : List UInt8) : HalM SpiReply :=
  fun d =>
    let reply := w.spi d.spiCount
    .ok reply
      { d with
        asleep := d.asleep || (!reply.failed && setSleep.isPrefixOf wire)
        busySeenLow := false
        spiCount := d.spiCount + 1
        log := .transfer (!d.asleep) d.busySeenLow :: d.log }

/-! ## What the drivers share -/

/-- The loop of `*_hal_wait_on_busy`: whether BUSY was seen low, or `none` while
    the loop goes on. -/
def pollBusy (asleep : Bool) (stop : UInt32) : List Poll → Option Bool
  | [] => none
  | p :: ps =>
      if p.uptime ≤ stop then
        -- a sleeping radio holds the line high
        if asleep || p.busyHigh then pollBusy asleep stop ps else some true
      else some false

/-- `*_hal_wait_on_busy`. -/
def halWaitOnBusy (w : World) : HalM Unit := fun d =>
  let wait := w.waits d.waitCount
  let d' : Device :=
    { d with
      waitCount := d.waitCount + 1
      log := .waitOnBusy (!d.asleep) :: d.log }
  match pollBusy d.asleep (wait.start + w.waitOnBusyTimeoutMsec) wait.polls with
  | none => .error .stillWaiting d'
  | some false => .error .oops d'
  | some true => .ok () { d' with busySeenLow := true }

/-- `*_hal_check_device_ready`. -/
def halCheckDeviceReady (w : World) : HalM Unit := do
  let d ← get
  if d.radioStatus ≠ .sleep then halWaitOnBusy w
  else do
    nssPulse
    halWaitOnBusy w
    setRadioStatus .awake

/-- `*_hal_reset`. -/
def halReset : HalM HalStatus := do
  resetPulse
  setRadioStatus .awake
  pure .ok

/-- `*_hal_wakeup`. -/
def halWakeup (w : World) : HalM HalStatus := do
  halCheckDeviceReady w
  pure .ok

/-- `lr11xx_hal_write` and `lr20xx_hal_write`, whose SetSleep is `01 lo`; `crc`
    is what is sent after the two buffers. -/
def halWrite (w : World) (lo : UInt8) (crc : List UInt8)
    (command data : Buffer) : HalM HalStatus := do
  halCheckDeviceReady w
  let reply ← spiTransfer w [0x01, lo] (command.bytes ++ data.bytes ++ crc)
  if reply.failed then pure .error
  else if command.byte 0 = 0x01 ∧ 1 < command.length ∧ command.byte 1 = lo then
    do
      setRadioStatus .sleep
      pure .ok
  else pure .ok

/-- One transfer that fills `data` behind `skip` bytes; `crcOk` judges what was
    received. -/
def halTransceive (w : World) (setSleep wire : List UInt8) (skip : Nat)
    (crcOk : (Nat → UInt8) → Bool) (data : Buffer) :
    HalM (HalStatus × (Nat → UInt8)) := do
  halCheckDeviceReady w
  let reply ← spiTransfer w setSleep wire
  if reply.failed then pure (.error, data.byte)
  else
    pure (if crcOk reply.rx then .ok else .error,
      fun i => if i < data.length then reply.rx (skip + i) else data.byte i)

/-- `lr11xx_hal_read` and `lr20xx_hal_read`: the command, and a second transfer
    when there is something to read. -/
def halRead (w : World) (setSleep : List UInt8) (crc : List UInt8) (skip : Nat)
    (crcOk : (Nat → UInt8) → Bool) (command data : Buffer) :
    HalM (HalStatus × (Nat → UInt8)) := do
  halCheckDeviceReady w
  let reply ← spiTransfer w setSleep (command.bytes ++ crc)
  if reply.failed then pure (.error, data.byte)
  else if 0 < data.length then halTransceive w setSleep [] skip crcOk data
  else pure (.ok, data.byte)

/-! ## LR11xx -/

/-- `lr11xx_hal_compute_crc`, if `CONFIG_LR11XX_USE_CRC_OVER_SPI` is set: from
    the value to start with and the bytes. -/
abbrev Lr11xxCrc := Option (UInt8 → List UInt8 → UInt8)

def lr11xxSetSleep : List UInt8 := [0x01, 0x1B]

/-- The checksum sent behind the buffers. -/
def lr11xxTxCrc (crc : Lr11xxCrc) (bufs : List (List UInt8)) : List UInt8 :=
  match crc with
  | none => []
  | some computeCrc => [bufs.foldl computeCrc 0xFF]

/-- The check of the checksum received behind the buffers. -/
def lr11xxRxCrcOk (crc : Lr11xxCrc) (bufs : List (List UInt8)) (rxCrc : UInt8) :
    Bool :=
  match crc with
  | none => true
  | some computeCrc => rxCrc == bufs.foldl computeCrc 0xFF

def lr11xxHalWrite (w : World) (crc : Lr11xxCrc) (command data : Buffer) :
    HalM HalStatus :=
  halWrite w 0x1B (lr11xxTxCrc crc [command.bytes, data.bytes]) command data

def lr11xxHalDirectRead (w : World) (crc : Lr11xxCrc) (data : Buffer) :
    HalM (HalStatus × (Nat → UInt8)) :=
  halTransceive w lr11xxSetSleep [] 0
    (fun rx => lr11xxRxCrcOk crc [firstBytes rx data.length] (rx data.length))
    data

/-- The first byte received is a dummy and part of the checksum. -/
def lr11xxHalRead (w : World) (crc : Lr11xxCrc) (command data : Buffer) :
    HalM (HalStatus × (Nat → UInt8)) :=
  halRead w lr11xxSetSleep (lr11xxTxCrc crc [command.bytes]) 1
    (fun rx => lr11xxRxCrcOk crc
      [firstBytes rx 1, firstBytes (fun i => rx (1 + i)) data.length]
      (rx (1 + data.length)))
    command data

def lr11xxHalReset : HalM HalStatus := halReset

def lr11xxHalWakeup (w : World) : HalM HalStatus := halWakeup w

def lr11xxHalAbortBlockingCmd (w : World) (crc : Lr11xxCrc) : HalM HalStatus :=
  lr11xxHalWrite w crc ⟨fun _ => 0x00, 1⟩ .empty

/-! ## LR20xx -/

def lr20xxSetSleep : List UInt8 := [0x01, 0x27]

def lr20xxHalWrite (w : World) (command data : Buffer) : HalM HalStatus :=
  halWrite w 0x27 [] command data

def lr20xxHalRead (w : World) (command data : Buffer) :
    HalM (HalStatus × (Nat → UInt8)) :=
  halRead w lr20xxSetSleep [] 2 (fun _ => true) command data

def lr20xxHalDirectRead (w : World) (data : Buffer) :
    HalM (HalStatus × (Nat → UInt8)) :=
  halTransceive w lr20xxSetSleep [] 0 (fun _ => true) data

/-- The buffer to read into is also sent. -/
def lr20xxHalDirectReadFifo (w : World) (command data : Buffer) :
    HalM (HalStatus × (Nat → UInt8)) :=
  halTransceive w lr20xxSetSleep (command.bytes ++ data.bytes) 2
    (fun _ => true) data

def lr20xxHalReset : HalM HalStatus := halReset

def lr20xxHalWakeup (w : World) : HalM HalStatus := halWakeup w

/-! ## SX126x -/

def sx126xSetSleep : List UInt8 := [0x84]

/-- Unlike the other drivers, a command that is not SetSleep is waited for. -/
def sx126xHalWrite (w : World) (command data : Buffer) : HalM HalStatus := do
  halCheckDeviceReady w
  let reply ← spiTransfer w sx126xSetSleep (command.bytes ++ data.bytes)
  if reply.failed then pure .error
  else if command.byte 0 = 0x84 then do
    setRadioStatus .sleep
    pure .ok
  else do
    halCheckDeviceReady w
    pure .ok

/-- Zeros are sent for the bytes to read. -/
def sx126xHalRead (w : World) (command data : Buffer) :
    HalM (HalStatus × (Nat → UInt8)) :=
  halTransceive w sx126xSetSleep
    (command.bytes ++ List.replicate data.length 0x00) command.length
    (fun _ => true) data

def sx126xHalReset : HalM HalStatus := halReset

def sx126xHalWakeup (w : World) : HalM HalStatus := halWakeup w

/-! ## The drivers -/

/-- The calls of a driver, and which of them the invariant is about. -/
structure Driver where
  Call : Type
  perform : World → Call → HalM HalStatus
  WellFormed : Call → Prop

/-- SetSleep is sent inside the command buffer or not at all. -/
def WriteWellFormed (setSleep : List UInt8) (command : Buffer)
    (rest : List UInt8) : Prop :=
  0 < command.length ∧ (setSleep <+: command.bytes ++ rest →
    setSleep <+: command.bytes)

/-- A command, and not SetSleep. -/
def ReadWellFormed (setSleep : List UInt8) (command : Buffer)
    (rest : List UInt8) : Prop :=
  0 < command.length ∧ ¬ setSleep <+: command.bytes ++ rest

inductive Lr11xxCall where
  | write (command data : Buffer)
  | directRead (data : Buffer)
  | read (command data : Buffer)
  | reset
  | wakeup
  | abortBlockingCmd

def lr11xx (crc : Lr11xxCrc) : Driver where
  Call := Lr11xxCall
  perform w
    | .write command data => lr11xxHalWrite w crc command data
    | .directRead data => do return (← lr11xxHalDirectRead w crc data).1
    | .read command data => do return (← lr11xxHalRead w crc command data).1
    | .reset => lr11xxHalReset
    | .wakeup => lr11xxHalWakeup w
    | .abortBlockingCmd => lr11xxHalAbortBlockingCmd w crc
  WellFormed
    | .write command data => WriteWellFormed lr11xxSetSleep command
        (data.bytes ++ lr11xxTxCrc crc [command.bytes, data.bytes])
    | .read command _ =>
        ReadWellFormed lr11xxSetSleep command (lr11xxTxCrc crc [command.bytes])
    | _ => True

inductive Lr20xxCall where
  | reset
  | wakeup
  | write (command data : Buffer)
  | read (command data : Buffer)
  | directRead (data : Buffer)
  | directReadFifo (command data : Buffer)

def lr20xx : Driver where
  Call := Lr20xxCall
  perform w
    | .reset => lr20xxHalReset
    | .wakeup => lr20xxHalWakeup w
    | .write command data => lr20xxHalWrite w command data
    | .read command data => do return (← lr20xxHalRead w command data).1
    | .directRead data => do return (← lr20xxHalDirectRead w data).1
    | .directReadFifo command data => do
        return (← lr20xxHalDirectReadFifo w command data).1
  WellFormed
    | .write command data => WriteWellFormed lr20xxSetSleep command data.bytes
    | .read command _ => ReadWellFormed lr20xxSetSleep command []
    | .directReadFifo command data =>
        ReadWellFormed lr20xxSetSleep command data.bytes
    | _ => True

inductive Sx126xCall where
  | write (command data : Buffer)
  | read (command data : Buffer)
  | reset
  | wakeup

def sx126x : Driver where
  Call := Sx126xCall
  perform w
    | .write command data => sx126xHalWrite w command data
    | .read command data => do return (← sx126xHalRead w command data).1
    | .reset => sx126xHalReset
    | .wakeup => sx126xHalWakeup w
  WellFormed
    | .write command data => WriteWellFormed sx126xSetSleep command data.bytes
    | .read command data => ReadWellFormed sx126xSetSleep command
        (List.replicate data.length 0x00)
    | _ => True

inductive Chip where
  | lr11xx (crc : Lr11xxCrc)
  | lr20xx
  | sx126x

def driver : Chip → Driver
  | .lr11xx crc => lr11xx crc
  | .lr20xx => lr20xx
  | .sx126x => sx126x

/-! ## The invariant -/

/-- Transfers go to an awake radio whose BUSY was seen low, and BUSY is waited
    for only while the radio is awake. -/
def LogEntry.Good : LogEntry → Prop
  | .transfer awake busySeenLow => awake = true ∧ busySeenLow = true
  | .waitOnBusy awake => awake = true

def TalksAwake (d : Device) : Prop := ∀ e ∈ d.log, e.Good

/-- What holds between calls. -/
structure Consistent (d : Device) : Prop where
  shadow : d.radioStatus = .sleep ↔ d.asleep = true
  talks : TalksAwake d

/-- The radio is awake, and the driver says `st`. -/
structure Awake (st : RadioStatus) (d : Device) : Prop where
  status : d.radioStatus = st
  awake : d.asleep = false
  talks : TalksAwake d

/-- A transfer may start. -/
structure Ready (d : Device) : Prop extends Awake .awake d where
  seenLow : d.busySeenLow = true

theorem Awake.consistent {d : Device} (h : Awake .awake d) : Consistent d := by
  refine ⟨?_, h.talks⟩
  rw [h.status, h.awake]
  exact ⟨nofun, nofun⟩

theorem TalksAwake.cons {d d' : Device} {e : LogEntry} (h : TalksAwake d)
    (hlog : d'.log = e :: d.log) (he : e.Good) : TalksAwake d' := by
  intro f hf
  rw [hlog] at hf
  rcases List.mem_cons.mp hf with rfl | hf
  · exact he
  · exact h f hf

/-- Waiting, with the radio awake. -/
theorem halWaitOnBusy_spec (w : World) (st : RadioStatus) :
    Triple (Awake st) (halWaitOnBusy w)
      (fun _ d => Awake st d ∧ d.busySeenLow = true) TalksAwake := by
  intro d hd
  have hlog : ∀ d' : Device, d'.log = .waitOnBusy (!d.asleep) :: d.log →
      TalksAwake d' := by
    intro d' hlog
    refine hd.talks.cons hlog ?_
    rw [hd.awake]
    rfl
  rw [halWaitOnBusy]
  dsimp only
  cases pollBusy d.asleep ((w.waits d.waitCount).start + w.waitOnBusyTimeoutMsec)
      (w.waits d.waitCount).polls with
  | none => exact hlog _ rfl
  | some seen =>
      cases seen with
      | false => exact hlog _ rfl
      | true => exact ⟨⟨hd.status, hd.awake, hlog _ rfl⟩, rfl⟩

/-- **AFTER THE CHECK THE RADIO IS READY**: it is awake, the driver knows, and
    BUSY was seen low. -/
theorem halCheckDeviceReady_spec (w : World) :
    Triple Consistent (halCheckDeviceReady w) (fun _ => Ready) TalksAwake := by
  refine .bind .get ?_
  intro d
  refine .ite ?_ ?_
  · -- the driver believes the radio to be awake
    intro hst
    refine ((halWaitOnBusy_spec w .awake).weaken ?_
      fun _ _ h => ⟨h.1, h.2⟩)
    rintro s ⟨rfl, hs⟩
    have hawake : d.radioStatus = .awake := by
      cases h : d.radioStatus with
      | sleep => exact absurd h hst
      | awake => rfl
    refine ⟨hawake, ?_, hs.talks⟩
    cases ha : d.asleep with
    | false => rfl
    | true => exact absurd (hs.shadow.mpr ha) hst
  · -- the driver knows that it sleeps: the pulse wakes it before the wait
    intro hst
    have hpulse : Triple (fun s => d = s ∧ Consistent s) nssPulse
        (fun _ => Awake .sleep) TalksAwake := by
      rintro s ⟨rfl, hs⟩
      exact ⟨Decidable.of_not_not hst, rfl, hs.talks⟩
    have hset : Triple (fun d => Awake .sleep d ∧ d.busySeenLow = true)
        (setRadioStatus .awake) (fun _ => Ready) TalksAwake :=
      fun d hd => ⟨⟨rfl, hd.1.awake, hd.1.talks⟩, hd.2⟩
    exact hpulse.bind fun _ => (halWaitOnBusy_spec w .sleep).bind fun _ => hset

/-- A transfer to a ready radio. -/
theorem spiTransfer_spec (w : World) (setSleep wire : List UInt8) :
    Triple Ready (spiTransfer w setSleep wire)
      (fun reply d => d.radioStatus = .awake ∧ TalksAwake d
        ∧ d.asleep = (!reply.failed && setSleep.isPrefixOf wire))
      TalksAwake := by
  intro d hd
  refine ⟨hd.status, ?_, ?_⟩
  · refine hd.talks.cons rfl ?_
    rw [hd.awake, hd.seenLow]
    exact ⟨rfl, rfl⟩
  · dsimp only
    rw [hd.awake, Bool.false_or]

/-- A transfer to a ready radio that is not SetSleep leaves it awake. -/
theorem spiTransfer_awake (w : World) {setSleep wire : List UInt8}
    (h : ¬ setSleep <+: wire) :
    Triple Ready (spiTransfer w setSleep wire) (fun _ => Awake .awake)
      TalksAwake := by
  refine (spiTransfer_spec w setSleep wire).weaken (fun _ hs => hs) ?_
  rintro reply d ⟨hstatus, htalks, hasleep⟩
  refine ⟨hstatus, ?_, htalks⟩
  have hno : setSleep.isPrefixOf wire = false := by
    cases hp : setSleep.isPrefixOf wire with
    | false => rfl
    | true => exact absurd (List.isPrefixOf_iff_prefix.mp hp) h
  rw [hasleep, hno, Bool.and_false]

/-! ## The entry points keep it -/

/-- A call is sound when it keeps the invariant, and the log stays good also
    when it does not return. -/
def Sound {α : Type} (x : HalM α) : Prop :=
  Triple Consistent x (fun _ => Consistent) TalksAwake

/-- What is done with the result does not matter. -/
theorem Sound.map {α β : Type} {x : HalM α} {f : α → β} (h : Sound x) :
    Sound (do return f (← x)) :=
  h.bind fun _ => .pure fun _ hs => hs

theorem halReset_sound : Sound halReset := by
  have hpulse : Triple Consistent resetPulse
      (fun _ d => d.asleep = false ∧ TalksAwake d) TalksAwake :=
    fun _ hd => ⟨rfl, hd.talks⟩
  have hset : Triple (fun d : Device => d.asleep = false ∧ TalksAwake d)
      (setRadioStatus .awake) (fun _ => Awake .awake) TalksAwake :=
    fun _ hd => ⟨rfl, hd.1, hd.2⟩
  exact hpulse.bind fun _ => hset.bind fun _ => .pure fun _ hs => hs.consistent

theorem halWakeup_sound (w : World) : Sound (halWakeup w) :=
  (halCheckDeviceReady_spec w).bind fun _ =>
    .pure fun _ hs => hs.toAwake.consistent

theorem halTransceive_sound (w : World) {setSleep wire : List UInt8}
    (skip : Nat) (crcOk : (Nat → UInt8) → Bool) (data : Buffer)
    (h : ¬ setSleep <+: wire) :
    Sound (halTransceive w setSleep wire skip crcOk data) := by
  refine (halCheckDeviceReady_spec w).bind fun _ =>
    (spiTransfer_awake w h).bind fun reply => ?_
  refine .ite ?_ ?_
  · intro _
    exact .pure fun _ hs => hs.consistent
  · intro _
    exact .pure fun _ hs => hs.consistent

theorem halRead_sound (w : World) {setSleep : List UInt8} {crc : List UInt8}
    (skip : Nat) (crcOk : (Nat → UInt8) → Bool) {command : Buffer}
    (data : Buffer) (hne : setSleep ≠ [])
    (h : ReadWellFormed setSleep command crc) :
    Sound (halRead w setSleep crc skip crcOk command data) := by
  refine (halCheckDeviceReady_spec w).bind fun _ =>
    (spiTransfer_awake w h.2).bind fun reply => ?_
  refine .ite ?_ ?_
  · intro _
    exact .pure fun _ hs => hs.consistent
  · intro _
    refine .ite ?_ ?_
    · -- the second transfer starts like a call of its own
      intro _
      have hnothing : ¬ setSleep <+: [] := fun hp => hne (List.prefix_nil.mp hp)
      exact (halTransceive_sound w skip crcOk data hnothing).weaken
        (fun _ hs => hs.consistent) fun _ _ hs => hs
    · intro _
      exact .pure fun _ hs => hs.consistent

/-- SetSleep as the drivers of the LR chips test for it. -/
theorem setSleep_prefix_iff (hi lo : UInt8) (command : Buffer) :
    [hi, lo] <+: command.bytes
      ↔ command.byte 0 = hi ∧ 1 < command.length ∧ command.byte 1 = lo := by
  obtain ⟨byte, length⟩ := command
  match length with
  | 0 => simp [Buffer.bytes, firstBytes]
  | 1 => simp [Buffer.bytes, firstBytes]
  | n + 2 =>
      rw [Buffer.bytes, firstBytes_add_two]
      simp [List.cons_prefix_cons, eq_comm]

theorem sx126x_setSleep_prefix_iff {command : Buffer} (h : 0 < command.length) :
    sx126xSetSleep <+: command.bytes ↔ command.byte 0 = 0x84 := by
  obtain ⟨byte, length⟩ := command
  match length with
  | 0 => cases h
  | n + 1 =>
      simp [sx126xSetSleep, Buffer.bytes, firstBytes, List.range_succ_eq_map,
        List.cons_prefix_cons, eq_comm]

/-- What is known after the transfer of a write: the radio sleeps exactly when
    the transfer succeeded and the command buffer says so. -/
structure Written (setSleep : List UInt8) (command : Buffer) (reply : SpiReply)
    (d : Device) : Prop where
  status : d.radioStatus = .awake
  talks : TalksAwake d
  asleep : d.asleep = true ↔ reply.failed = false ∧ setSleep <+: command.bytes

theorem spiTransfer_write (w : World) {setSleep : List UInt8} {command : Buffer}
    {rest : List UInt8} (h : WriteWellFormed setSleep command rest) :
    Triple Ready (spiTransfer w setSleep (command.bytes ++ rest))
      (Written setSleep command) TalksAwake := by
  refine (spiTransfer_spec w setSleep _).weaken (fun _ hs => hs) ?_
  rintro reply d ⟨hstatus, htalks, hasleep⟩
  refine ⟨hstatus, htalks, ?_⟩
  rw [hasleep, Bool.and_eq_true, Bool.not_eq_true', List.isPrefixOf_iff_prefix]
  constructor
  · rintro ⟨hok, hp⟩
    exact ⟨hok, h.2 hp⟩
  · rintro ⟨hok, hp⟩
    exact ⟨hok, hp.trans (List.prefix_append _ _)⟩

theorem Written.awake {setSleep : List UInt8} {command : Buffer}
    {reply : SpiReply} {d : Device} (h : Written setSleep command reply d)
    (hno : ¬ (reply.failed = false ∧ setSleep <+: command.bytes)) :
    Awake .awake d := by
  refine ⟨h.status, ?_, h.talks⟩
  cases ha : d.asleep with
  | false => rfl
  | true => exact absurd (h.asleep.mp ha) hno

/-- The end of a write: the status follows the radio when the driver tests the
    command for SetSleep, whatever `k` it goes on with after another command. -/
theorem writeEnd_spec {setSleep : List UInt8} {command : Buffer}
    (reply : SpiReply) {isSetSleep : Prop} [Decidable isSetSleep]
    (htest : setSleep <+: command.bytes ↔ isSetSleep) {k : HalM HalStatus}
    (hk : Triple (Awake .awake) k (fun _ => Consistent) TalksAwake) :
    Triple (Written setSleep command reply)
      (if reply.failed then pure .error
        else if isSetSleep then do
          setRadioStatus .sleep
          pure .ok
        else k)
      (fun _ => Consistent) TalksAwake := by
  refine .ite ?_ ?_
  · intro hfailed
    refine .pure ?_
    intro d hd
    -- the radio did not get the command, and the status stays as it was
    refine (hd.awake ?_).consistent
    rintro ⟨hok, _⟩
    exact absurd (hfailed.symm.trans hok) nofun
  · intro hfailed
    have hok : reply.failed = false := Bool.eq_false_iff.mpr hfailed
    refine .ite ?_ ?_
    · intro hsleep
      have hset : Triple (Written setSleep command reply)
          (setRadioStatus .sleep) (fun _ => Consistent) TalksAwake := by
        intro d hd
        refine ⟨⟨fun _ => ?_, fun _ => rfl⟩, hd.talks⟩
        exact hd.asleep.mpr ⟨hok, htest.mpr hsleep⟩
      exact hset.bind fun _ => .pure fun _ hs => hs
    · intro hother
      refine hk.weaken ?_ fun _ _ hs => hs
      intro d hd
      exact hd.awake fun hs => hother (htest.mp hs.2)

theorem halWrite_sound (w : World) (lo : UInt8) {crc : List UInt8}
    {command data : Buffer}
    (h : WriteWellFormed [0x01, lo] command (data.bytes ++ crc)) :
    Sound (halWrite w lo crc command data) := by
  refine (halCheckDeviceReady_spec w).bind fun _ => ?_
  rw [List.append_assoc]
  refine (spiTransfer_write w h).bind fun reply => ?_
  exact writeEnd_spec reply (setSleep_prefix_iff _ _ _)
    (.pure fun _ hs => hs.consistent)

theorem sx126xHalWrite_sound (w : World) {command data : Buffer}
    (h : WriteWellFormed sx126xSetSleep command data.bytes) :
    Sound (sx126xHalWrite w command data) := by
  refine (halCheckDeviceReady_spec w).bind fun _ =>
    (spiTransfer_write w h).bind fun reply => ?_
  refine writeEnd_spec reply (sx126x_setSleep_prefix_iff h.1) ?_
  -- the radio is awake and is waited for
  exact ((halCheckDeviceReady_spec w).weaken (fun _ hs => hs.consistent)
    fun _ _ hs => hs).bind fun _ => .pure fun _ hs => hs.toAwake.consistent

/-! ## Sequences of calls -/

theorem lr11xx_sound (crc : Lr11xxCrc) (w : World) (c : Lr11xxCall)
    (h : (lr11xx crc).WellFormed c) : Sound ((lr11xx crc).perform w c) := by
  cases c with
  | write command data => exact halWrite_sound w 0x1B h
  | directRead data => exact (halTransceive_sound w 0 _ data (by decide)).map
  | read command data => exact (halRead_sound w 1 _ data (by decide) h).map
  | reset => exact halReset_sound
  | wakeup => exact halWakeup_sound w
  | abortBlockingCmd =>
      refine halWrite_sound w 0x1B ⟨Nat.one_pos, ?_⟩
      -- the wire starts with 00
      intro hp
      have hzero : (0x01 : UInt8) = 0x00 := (List.cons_prefix_cons.mp hp).1
      exact absurd hzero (by decide)

theorem lr20xx_sound (w : World) (c : Lr20xxCall) (h : lr20xx.WellFormed c) :
    Sound (lr20xx.perform w c) := by
  cases c with
  | reset => exact halReset_sound
  | wakeup => exact halWakeup_sound w
  | write command data =>
      refine halWrite_sound w 0x27 ?_
      rw [List.append_nil]
      exact h
  | read command data => exact (halRead_sound w 2 _ data (by decide) h).map
  | directRead data => exact (halTransceive_sound w 0 _ data (by decide)).map
  | directReadFifo command data => exact (halTransceive_sound w 2 _ data h.2).map

theorem sx126x_sound (w : World) (c : Sx126xCall) (h : sx126x.WellFormed c) :
    Sound (sx126x.perform w c) := by
  cases c with
  | write command data => exact sx126xHalWrite_sound w h
  | read command data => exact (halTransceive_sound w _ _ data h.2).map
  | reset => exact halReset_sound
  | wakeup => exact halWakeup_sound w

theorem driver_sound (chip : Chip) (w : World) (c : (driver chip).Call)
    (h : (driver chip).WellFormed c) : Sound ((driver chip).perform w c) := by
  cases chip with
  | lr11xx crc => exact lr11xx_sound crc w c h
  | lr20xx => exact lr20xx_sound w c h
  | sx126x => exact sx126x_sound w c h

/-- Calls of a driver, one after the other. -/
def performCalls (D : Driver) (w : World) (calls : List D.Call) : HalM Unit :=
  performAll (calls.map (D.perform w))

/-- What calls that returned promise, and what calls that stopped do. -/
structure StatusShadows (r : EStateM.Result Stop Device Unit) : Prop where
  returned : ∀ d, r = .ok () d →
    (d.radioStatus = .sleep ↔ d.asleep = true) ∧ TalksAwake d
  stopped : ∀ stop d, r = .error stop d → TalksAwake d

/-- **THE STATUS SHADOWS THE RADIO'S SLEEP, AND NOBODY TALKS TO A SLEEPING
    RADIO.**  After any sequence of well-formed calls that returns, the driver
    says that the radio sleeps exactly when it does; and whether the sequence
    returns or not, every transfer went to an awake radio after BUSY was seen
    low, and BUSY was waited for only with the radio awake. -/
theorem radio_status_shadows_sleep (chip : Chip) (w : World)
    (calls : List (driver chip).Call)
    (hcalls : ∀ c ∈ calls, (driver chip).WellFormed c) (d : Device)
    (hd : d.radioStatus = .sleep ↔ d.asleep = true) (hlog : d.log = []) :
    StatusShadows (performCalls (driver chip) w calls d) := by
  have hsound : Triple Consistent (performCalls (driver chip) w calls)
      (fun _ => Consistent) TalksAwake := by
    refine .performAll ?_
    intro x hx
    obtain ⟨c, hc, rfl⟩ := List.mem_map.mp hx
    exact driver_sound chip w c (hcalls c hc)
  have hstart : Consistent d := by
    refine ⟨hd, ?_⟩
    intro e he
    rw [hlog] at he
    cases he
  have hend := hsound d hstart
  constructor
  · intro d' hrun
    rw [hrun] at hend
    exact ⟨hend.shadow, hend.talks⟩
  · intro stop d' hrun
    rw [hrun] at hend
    exact hend

/-- The device after `*_init`. -/
def initialDevice : Device where
  radioStatus := .awake
  asleep := false
  busySeenLow := false
  waitCount := 0
  spiCount := 0
  log := []

/-- BUSY falls at once and every transfer succeeds. -/
def promptWorld : World where
  waits := fun _ => ⟨0, [⟨0, false⟩]⟩
  spi := fun _ => ⟨false, fun _ => 0⟩
  waitOnBusyTimeoutMsec := 1000

/-- SetSleep on the SX126x, and a read that has to wake the radio. -/
def sleepThenRead : List (driver .sx126x).Call :=
  [Sx126xCall.write ⟨fun _ => 0x84, 1⟩ .empty,
    Sx126xCall.read ⟨fun _ => 0x12, 1⟩ ⟨fun _ => 0, 2⟩]

theorem sleepThenRead_wellFormed :
    ∀ c ∈ sleepThenRead, (driver .sx126x).WellFormed c := by
  intro c hc
  rcases List.mem_cons.mp hc with rfl | hc
  · exact ⟨by decide, fun _ => by decide⟩
  · rw [List.mem_singleton.mp hc]
    exact ⟨by decide, by decide⟩

theorem radio_status_shadows_sleep_sleepThenRead :
    StatusShadows
      (performCalls (driver .sx126x) promptWorld sleepThenRead initialDevice) :=
  radio_status_shadows_sleep .sx126x promptWorld sleepThenRead
    sleepThenRead_wellFormed initialDevice (by decide) rfl

end RadioHal
