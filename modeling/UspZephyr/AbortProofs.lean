import UspZephyr.RadioHalProofs
import UspZephyr.StepRunProofs

/-! # Aborting a blocking command

    An awake LR11xx holds BUSY high from a blocking command until it gets the
    abort bytes, or until the command ends by itself.
    `lr11xx_hal_abort_blocking_cmd` sends the bytes with `lr11xx_hal_write`,
    which first waits for BUSY to fall: it waits for the line that only the
    abort releases.

    A session is the device and whether a blocking command is in progress; the
    world's polls decide how long the command goes on by itself.
    `abortHonoured_iff` is about the end of every run of calls. -/

namespace Abort

open Hoare RadioHal StepRun

/-! ## Sessions -/

/-- The device, and whether the last that reached the radio is a blocking
    command of which BUSY has not been seen to fall. -/
structure Session where
  device : Device
  inProgress : Bool

/-- The call ends with a command that blocks.  Every other call but the reset
    has waited for BUSY behind what it sent before, and the reset stops the
    command. -/
def endsBlocking (isBlocking : List UInt8 → Bool) : Lr11xxCall → Bool
  | .write command data => isBlocking (command.bytes ++ data.bytes)
  | .read command data => data.length == 0 && isBlocking command.bytes
  | _ => false

/-- A call that returns. -/
def call (crc : Lr11xxCrc) (w : World) (isBlocking : List UInt8 → Bool)
    (s : Session) (c : Lr11xxCall) : Option Session :=
  match (lr11xx crc).perform w c s.device with
  | .ok st d => some ⟨d, st == .ok && endsBlocking isBlocking c⟩
  | .error _ _ => none

/-- The session after `*_init`. -/
def initialSession : Session := ⟨initialDevice, false⟩

/-! ## What is asked of the abort -/

/-- The device a call leaves, whether it returns or not. -/
def Leaves (r : EStateM.Result Stop Device HalStatus) (d' : Device) : Prop :=
  (∃ st, r = .ok st d') ∨ ∃ stop, r = .error stop d'

/-- The radio is awake in this transfer or wait. -/
def RadioAwake : LogEntry → Prop
  | .transfer awake _ => awake = true
  | .waitOnBusy awake => awake = true

/-- The abort returns, its bytes are sent while BUSY has not fallen, and it says
    OK if the transfer succeeded. -/
def AbortsAtOnce (crc : Lr11xxCrc) (w : World) (d : Device) : Prop :=
  ∃ st d' new, lr11xxHalAbortBlockingCmd w crc d = .ok st d'
    ∧ d'.log = new ++ d.log ∧ .transfer true false ∈ new
    ∧ ((w.spi d.spiCount).failed = false → st = .ok)

/-- All waiting and sending is done with the radio awake, and if the abort
    returns it has sent its bytes. -/
def WakesFirst (crc : Lr11xxCrc) (w : World) (d : Device) : Prop :=
  ∃ d' new, Leaves (lr11xxHalAbortBlockingCmd w crc d) d'
    ∧ d'.log = new ++ d.log ∧ (∀ e ∈ new, RadioAwake e)
    ∧ ∀ st, lr11xxHalAbortBlockingCmd w crc d = .ok st d' →
      .transfer true true ∈ new

/-- A blocking command of an awake radio is aborted, and a sleeping radio is
    woken. -/
structure AbortHonoured (crc : Lr11xxCrc) (w : World) (s : Session) : Prop where
  blocking : s.inProgress = true → s.device.asleep = false →
    AbortsAtOnce crc w s.device
  asleep : s.device.asleep = true → WakesFirst crc w s.device

/-! ## What the abort does -/

section

variable {d : Device}

/-- The wait, entered with the radio awake or not. -/
theorem halWaitOnBusy_log (w : World) (awake : Bool) :
    Triple (fun s => s.log = d.log ∧ s.asleep = !awake) (halWaitOnBusy w)
      (fun _ s => s.log = .waitOnBusy awake :: d.log ∧ s.asleep = !awake
        ∧ s.busySeenLow = true)
      (fun s => s.log = .waitOnBusy awake :: d.log) := by
  rintro s ⟨hlog, hasleep⟩
  have hentry : LogEntry.waitOnBusy (!s.asleep) :: s.log
      = .waitOnBusy awake :: d.log := by
    rw [hlog, hasleep, Bool.not_not]
  rw [halWaitOnBusy]
  dsimp only
  cases pollBusy s.asleep ((w.waits s.waitCount).start + w.waitOnBusyTimeoutMsec)
      (w.waits s.waitCount).polls with
  | none => exact hentry
  | some seen =>
      cases seen with
      | false => exact hentry
      | true => exact ⟨hentry, hasleep, rfl⟩

/-- Whether the radio is awake when the driver waits: it is woken only if the
    driver knows that it sleeps. -/
def awakeAtWait (d : Device) : Bool :=
  decide (d.radioStatus = .sleep) || !d.asleep

/-- The check waits once. -/
theorem halCheckDeviceReady_log (w : World) :
    Triple (fun s => s = d) (halCheckDeviceReady w)
      (fun _ s => s.log = .waitOnBusy (awakeAtWait d) :: d.log
        ∧ s.asleep = (!awakeAtWait d) ∧ s.busySeenLow = true)
      (fun s => s.log = .waitOnBusy (awakeAtWait d) :: d.log) := by
  refine .bind .get ?_
  intro e
  refine .ite ?_ ?_
  · intro hst
    refine (halWaitOnBusy_log w (awakeAtWait d)).weaken ?_ fun _ _ h => h
    rintro s ⟨rfl, rfl⟩
    rw [awakeAtWait, decide_eq_false hst, Bool.false_or, Bool.not_not]
    exact ⟨rfl, rfl⟩
  · intro hst
    have hpulse : Triple (fun s => e = s ∧ s = d) nssPulse
        (fun _ s => s.log = d.log ∧ s.asleep = !awakeAtWait d)
        (fun s => s.log = .waitOnBusy (awakeAtWait d) :: d.log) := by
      rintro s ⟨rfl, rfl⟩
      refine ⟨rfl, ?_⟩
      rw [awakeAtWait, decide_eq_true (Decidable.of_not_not hst), Bool.true_or]
      rfl
    refine hpulse.bind fun _ =>
      (halWaitOnBusy_log w (awakeAtWait d)).bind fun _ => ?_
    intro s hs
    exact hs

/-- **THE ABORT WAITS BEFORE IT SENDS**: it sends its bytes only after BUSY was
    seen low, and nothing if it was not. -/
theorem abort_log (crc : Lr11xxCrc) (w : World) :
    Triple (fun s => s = d) (lr11xxHalAbortBlockingCmd w crc)
      (fun _ s => s.log = [.transfer (awakeAtWait d) true,
        .waitOnBusy (awakeAtWait d)] ++ d.log)
      (fun s => s.log = [.waitOnBusy (awakeAtWait d)] ++ d.log) := by
  refine (halCheckDeviceReady_log w).bind fun _ => ?_
  have hsend : ∀ wire, Triple
      (fun s : Device => s.log = .waitOnBusy (awakeAtWait d) :: d.log
        ∧ s.asleep = (!awakeAtWait d) ∧ s.busySeenLow = true)
      (spiTransfer w [0x01, 0x1B] wire)
      (fun _ s => s.log = [.transfer (awakeAtWait d) true,
        .waitOnBusy (awakeAtWait d)] ++ d.log)
      (fun s => s.log = [.waitOnBusy (awakeAtWait d)] ++ d.log) := by
    rintro wire s ⟨hlog, hasleep, hlow⟩
    show LogEntry.transfer (!s.asleep) s.busySeenLow :: s.log = _
    rw [hlog, hasleep, hlow, Bool.not_not]
    rfl
  refine (hsend _).bind fun reply => .ite (fun _ => .pure fun _ hs => hs) ?_
  intro _
  -- 00 is not SetSleep
  refine .ite (fun hsleep => absurd hsleep.1 (by decide)) ?_
  intro _
  exact .pure fun _ hs => hs

/-- What the abort adds to the log. -/
theorem abort_new (crc : Lr11xxCrc) (w : World) {d' : Device}
    {new : List LogEntry}
    (hnew : d'.log = new ++ d.log) :
    (∀ st, lr11xxHalAbortBlockingCmd w crc d = .ok st d' →
        new = [.transfer (awakeAtWait d) true, .waitOnBusy (awakeAtWait d)])
      ∧ (∀ stop, lr11xxHalAbortBlockingCmd w crc d = .error stop d' →
        new = [.waitOnBusy (awakeAtWait d)]) := by
  have hlog := abort_log crc w d rfl
  constructor
  · intro st hr
    rw [hr] at hlog
    exact List.append_cancel_right (hnew.symm.trans hlog)
  · intro stop hr
    rw [hr] at hlog
    exact List.append_cancel_right (hnew.symm.trans hlog)

/-- The bytes never go out while BUSY has not fallen. -/
theorem not_abortsAtOnce (crc : Lr11xxCrc) (w : World) :
    ¬ AbortsAtOnce crc w d := by
  rintro ⟨st, d', new, hr, hlog, hmem, -⟩
  rw [(abort_new crc w hlog).1 st hr] at hmem
  rcases List.mem_cons.mp hmem with h | h
  · exact absurd (LogEntry.transfer.inj h).2 nofun
  · exact absurd (List.mem_singleton.mp h) nofun

/-- A sleeping radio is woken if the driver knows that it sleeps. -/
theorem wakesFirst_iff (crc : Lr11xxCrc) (w : World) :
    WakesFirst crc w d ↔ awakeAtWait d = true := by
  constructor
  · rintro ⟨d', new, hleaves, hlog, hawake, -⟩
    have hwait : LogEntry.waitOnBusy (awakeAtWait d) ∈ new := by
      obtain ⟨hok, herror⟩ := abort_new crc w hlog
      rcases hleaves with ⟨st, hr⟩ | ⟨stop, hr⟩
      · rw [hok st hr]
        exact List.mem_cons_of_mem _ List.mem_cons_self
      · rw [herror stop hr]
        exact List.mem_cons_self
    exact hawake _ hwait
  · intro hawake
    have hlog := abort_log crc w d rfl
    rw [hawake] at hlog
    cases hr : lr11xxHalAbortBlockingCmd w crc d with
    | ok st d' =>
        rw [hr] at hlog
        refine ⟨d', _, Or.inl ⟨st, hr⟩, hlog, ?_, ?_⟩
        · intro e he
          rcases List.mem_cons.mp he with rfl | he
          · rfl
          · rw [List.mem_singleton.mp he]
            rfl
        · intro _ _
          exact List.mem_cons_self
    | error stop d' =>
        rw [hr] at hlog
        refine ⟨d', _, Or.inr ⟨stop, hr⟩, hlog, ?_, ?_⟩
        · intro e he
          rw [List.mem_singleton.mp he]
          rfl
        · intro st hst
          exact absurd (hr.symm.trans hst) nofun

end

/-! ## The driver never takes an awake radio for a sleeping one -/

/-- What the driver takes for sleeping sleeps. -/
def SleepKnown (d : Device) : Prop := d.radioStatus = .sleep → d.asleep = true

/-- What becomes of it in a call that returns, whatever the call is given. -/
def KeepsSleepKnown {α : Type} (x : HalM α) : Prop :=
  Triple SleepKnown x (fun _ => SleepKnown) fun _ => True

theorem halWaitOnBusy_keeps (w : World) : KeepsSleepKnown (halWaitOnBusy w) := by
  intro d hd
  rw [halWaitOnBusy]
  dsimp only
  cases pollBusy d.asleep ((w.waits d.waitCount).start + w.waitOnBusyTimeoutMsec)
      (w.waits d.waitCount).polls with
  | none => trivial
  | some seen =>
      cases seen with
      | false => trivial
      | true => exact hd

/-- Awake is always a safe thing to say. -/
theorem setAwake_sleepKnown : Triple (fun _ => True) (setRadioStatus .awake)
    (fun _ => SleepKnown) fun _ => True := by
  intro d _ hsleep
  cases hsleep

theorem halCheckDeviceReady_keeps (w : World) :
    KeepsSleepKnown (halCheckDeviceReady w) := by
  refine .bind .get ?_
  intro d
  refine .ite ?_ ?_
  · intro _
    exact (halWaitOnBusy_keeps w).weaken (fun _ hs => hs.2) fun _ _ hs => hs
  · intro _
    -- between the pulse and the end of the wait the status is behind the radio
    have hpulse : Triple (fun s => d = s ∧ SleepKnown s) nssPulse
        (fun _ _ => True) fun _ => True := fun _ _ => trivial
    have hwait : Triple (fun _ => True) (halWaitOnBusy w) (fun _ _ => True)
        fun _ => True := by
      intro s _
      cases halWaitOnBusy w s with
      | ok _ _ => trivial
      | error _ _ => trivial
    exact hpulse.bind fun _ => hwait.bind fun _ => setAwake_sleepKnown

/-- A transfer, after which the radio sleeps if it was told to. -/
theorem spiTransfer_keeps (w : World) (setSleep wire : List UInt8) :
    Triple SleepKnown (spiTransfer w setSleep wire)
      (fun reply d => SleepKnown d
        ∧ (reply.failed = false → setSleep <+: wire → d.asleep = true))
      fun _ => True := by
  intro d hd
  refine ⟨?_, ?_⟩
  · intro hsleep
    show (d.asleep || _) = true
    rw [hd hsleep, Bool.true_or]
  · intro hok hprefix
    show (d.asleep || (!(w.spi d.spiCount).failed && setSleep.isPrefixOf wire))
      = true
    rw [hok, List.isPrefixOf_iff_prefix.mpr hprefix]
    exact Bool.or_true _

theorem halTransceive_keeps (w : World) (setSleep wire : List UInt8)
    (skip : Nat) (crcOk : (Nat → UInt8) → Bool) (data : Buffer) :
    KeepsSleepKnown (halTransceive w setSleep wire skip crcOk data) := by
  refine (halCheckDeviceReady_keeps w).bind fun _ =>
    (spiTransfer_keeps w setSleep wire).bind fun reply => ?_
  exact .ite (fun _ => .pure fun _ hs => hs.1) fun _ => .pure fun _ hs => hs.1

theorem halWrite_keeps (w : World) (lo : UInt8) (crc : List UInt8)
    (command data : Buffer) :
    KeepsSleepKnown (halWrite w lo crc command data) := by
  refine (halCheckDeviceReady_keeps w).bind fun _ =>
    (spiTransfer_keeps w _ _).bind fun reply => ?_
  refine .ite (fun _ => .pure fun _ hs => hs.1) ?_
  intro hfailed
  refine .ite ?_ fun _ => .pure fun _ hs => hs.1
  intro htest
  -- what the driver tests for is at the start of what was sent
  have hprefix : [0x01, lo] <+: command.bytes ++ data.bytes ++ crc := by
    rw [List.append_assoc]
    exact ((setSleep_prefix_iff 0x01 lo command).mpr htest).trans
      (List.prefix_append _ _)
  have hset : Triple (fun d : Device => SleepKnown d
      ∧ (reply.failed = false → [0x01, lo] <+: command.bytes ++ data.bytes ++ crc →
        d.asleep = true))
      (setRadioStatus .sleep) (fun _ => SleepKnown) fun _ => True :=
    fun d hd _ => hd.2 (Bool.eq_false_iff.mpr hfailed) hprefix
  exact hset.bind fun _ => .pure fun _ hs => hs

theorem halRead_keeps (w : World) (setSleep : List UInt8) (crc : List UInt8)
    (skip : Nat) (crcOk : (Nat → UInt8) → Bool) (command data : Buffer) :
    KeepsSleepKnown (halRead w setSleep crc skip crcOk command data) := by
  refine (halCheckDeviceReady_keeps w).bind fun _ =>
    (spiTransfer_keeps w setSleep _).bind fun reply => ?_
  refine .ite (fun _ => .pure fun _ hs => hs.1) fun _ => .ite ?_
    fun _ => .pure fun _ hs => hs.1
  intro _
  exact (halTransceive_keeps w setSleep [] skip crcOk data).weaken
    (fun _ hs => hs.1) fun _ _ hs => hs

theorem KeepsSleepKnown.map {α β : Type} {x : HalM α} {f : α → β}
    (h : KeepsSleepKnown x) : KeepsSleepKnown (do return f (← x)) :=
  h.bind fun _ => .pure fun _ hs => hs

/-- Any call, well formed or not. -/
theorem perform_keeps (crc : Lr11xxCrc) (w : World) (c : Lr11xxCall) :
    KeepsSleepKnown ((lr11xx crc).perform w c) := by
  cases c with
  | write command data => exact halWrite_keeps w 0x1B _ command data
  | directRead data => exact (halTransceive_keeps w _ [] 0 _ data).map
  | read command data => exact (halRead_keeps w _ _ 1 _ command data).map
  | reset =>
      have hpulse : Triple SleepKnown resetPulse (fun _ _ => True)
          fun _ => True := fun _ _ => trivial
      exact hpulse.bind fun _ => setAwake_sleepKnown.bind fun _ =>
        .pure fun _ hs => hs
  | wakeup =>
      exact (halCheckDeviceReady_keeps w).bind fun _ => .pure fun _ hs => hs
  | abortBlockingCmd => exact halWrite_keeps w 0x1B _ _ _

/-- One call. -/
theorem call_keeps {crc : Lr11xxCrc} {w : World} {isBlocking : List UInt8 → Bool}
    {s t : Session} {c : Lr11xxCall} (hs : SleepKnown s.device)
    (h : call crc w isBlocking s c = some t) : SleepKnown t.device := by
  have hkeeps := perform_keeps crc w c s.device hs
  rw [call] at h
  cases hr : (lr11xx crc).perform w c s.device with
  | ok st d =>
      rw [hr] at h hkeeps
      obtain rfl := Option.some.inj h
      exact hkeeps
  | error stop d =>
      rw [hr] at h
      cases h

/-! ## The end of every run -/

/-- **THE ABORT WAITS FOR WHAT ONLY IT CAN RELEASE**: at the end of a run of
    calls that leaves a blocking command in progress or the radio asleep, the
    abort does what it is for exactly when the driver has the radio down as
    asleep, and so never for a blocking command. -/
theorem abortHonoured_iff (crc : Lr11xxCrc) (w : World)
    (isBlocking : List UInt8 → Bool) (calls : List Lr11xxCall) (s : Session)
    (hrun : run (call crc w isBlocking) initialSession calls = some s)
    (hleft : (s.inProgress = true ∧ s.device.asleep = false)
      ∨ s.device.asleep = true) :
    AbortHonoured crc w s ↔ s.device.radioStatus = .sleep := by
  have hknown : SleepKnown s.device :=
    run_invariant (fun t : Session => SleepKnown t.device) (fun _ => True)
      (fun _ _ _ _ hs h => call_keeps hs h) (fun _ _ => trivial)
      (fun hsleep => absurd hsleep (by decide)) hrun
  constructor
  · rintro ⟨hblocking, hasleep⟩
    rcases hleft with ⟨hin, hawake⟩ | hsleeps
    · exact absurd (hblocking hin hawake) (not_abortsAtOnce crc w)
    · have hwait := (wakesFirst_iff crc w).mp (hasleep hsleeps)
      rw [awakeAtWait, hsleeps] at hwait
      simpa using hwait
  · intro hstatus
    constructor
    · intro _ hawake
      exact absurd ((hknown hstatus).symm.trans hawake) nofun
    · intro _
      refine (wakesFirst_iff crc w).mpr ?_
      rw [awakeAtWait, decide_eq_true hstatus, Bool.true_or]

/-- SetSleep. -/
def sleepCommand : Lr11xxCall :=
  .write ⟨fun i => if i = 0 then 0x01 else 0x1B, 2⟩ .empty

/-- The radio after SetSleep. -/
def sleepingSession : Session :=
  ⟨⟨.sleep, true, false, 1, 1, [.transfer true true, .waitOnBusy true]⟩, false⟩

theorem abortHonoured_sleeping : AbortHonoured none promptWorld sleepingSession :=
  (abortHonoured_iff none promptWorld (fun _ => false) [sleepCommand]
    sleepingSession rfl (Or.inr rfl)).mpr rfl

/-- A world in which BUSY is low before the blocking command and stays high
    behind it, past the timeout. -/
def blockedWorld : World where
  waits := fun k => if k = 0 then ⟨0, [⟨0, false⟩]⟩
    else ⟨1, [⟨1, true⟩, ⟨1002, true⟩]⟩
  spi := fun _ => ⟨false, fun _ => 0⟩
  waitOnBusyTimeoutMsec := 1000

/-- A command that blocks. -/
def scanCommand : Lr11xxCall := .write ⟨fun i => if i = 0 then 0x03 else 0x00, 2⟩ .empty

/-- The radio after it. -/
def blockedSession : Session :=
  ⟨⟨.awake, false, false, 1, 1, [.transfer true true, .waitOnBusy true]⟩, true⟩

/-- **A SCAN CANNOT BE ABORTED**: the abort ends in `k_oops` and sends
    nothing. -/
theorem scan_not_aborted :
    run (call none blockedWorld (· == [0x03, 0x00])) initialSession [scanCommand]
        = some blockedSession
      ∧ (∃ d, lr11xxHalAbortBlockingCmd blockedWorld none blockedSession.device
        = .error .oops d)
      ∧ ¬ AbortHonoured none blockedWorld blockedSession := by
  refine ⟨rfl, ⟨_, rfl⟩, ?_⟩
  intro h
  exact not_abortsAtOnce none blockedWorld (h.blocking rfl rfl)

end Abort
