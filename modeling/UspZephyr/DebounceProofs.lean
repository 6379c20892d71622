import UspZephyr.MainLoopProofs
import UspZephyr.ModemTimeProofs
import UspZephyr.RateLimiterProofs

/-! # The button and the ranging uplinks of the multiprotocol application

    A press of the button is taken if the one before is more than 500 ms back,
    and a ranging result is sent if the uplink before is 60 s back.  Both
    callbacks read the difference of two times as a signed number, so that for
    25 days out of 49 nothing is taken.

    `rateLimited_iff` is about every run of presses, results and shell commands,
    at any uptime.  The button of the FLRP application compares unsigned numbers
    and is right at any uptime (`flrp_limited`). -/

namespace Debounce

open MainLoop ModemTime RateLimiter StepRun WrappingClock

/-! ## The callbacks -/

def RANGING_UPLINK_MAX_RATE : Int := 60000
def RANGING_UPLINK_PORT : Nat := 102

/-- What a ranging result has that the application uses. -/
structure RangingResult where
  rngDistance : Int
  sf : Nat
  bw : Nat

/-- `multiprotocol_uplink_t`. -/
structure MultiprotocolUplink where
  distance : BitVec 16
  sf : BitVec 8
  bw : BitVec 8

/-- The arguments of `smtc_modem_request_uplink`. -/
structure UplinkRequest where
  fport : Nat
  confirmed : Bool
  payload : MultiprotocolUplink

/-- The variables of the application, with the static ones of its callbacks. -/
structure State where
  app : Multiprotocol.State
  lastUplinkTimestampMs : UInt32
  multiprotocolUplink : MultiprotocolUplink

/-- `user_button_callback` at an uptime, with the event it posts.  It takes no
    time. -/
def userButtonCallback (uptime : Nat) (s : State) :
    State × Option Multiprotocol.Event :=
  let time := (smtcModemHalGetTimeInMs uptime).toBitVec
  let (app, posted) := Multiprotocol.userButtonCallback time time s.app
  ({ s with app }, posted)

/-- `ranging_results_callback` at an uptime, with the uplink it requests.  What
    the request returns is only asserted. -/
def rangingResultsCallback (uptime : Nat) (r : RangingResult) (joined : Bool)
    (s : State) : State × Option UplinkRequest :=
  if s.app.isManager then
    if RANGING_UPLINK_MAX_RATE ≤
        (smtcModemHalGetTimeInMs uptime - s.lastUplinkTimestampMs).toBitVec.toInt
    then
      if joined then
        let uplink : MultiprotocolUplink :=
          { distance := BitVec.ofInt 16 (min r.rngDistance 0xFFFF)
            sf := BitVec.ofNat 8 r.sf
            bw := BitVec.ofNat 8 r.bw }
        ({ s with
            multiprotocolUplink := uplink
            lastUplinkTimestampMs := smtcModemHalGetTimeInMs uptime },
          some ⟨RANGING_UPLINK_PORT, false, uplink⟩)
      else (s, none)
    else (s, none)
  else (s, none)

/-! ## Runs -/

inductive Input where
  | buttonPressed
  /-- With what the modem says of its status. -/
  | rangingResult (r : RangingResult) (joined : Bool)
  | command (c : Multiprotocol.Command)

/-- An input at its true time, in milliseconds since the reset. -/
structure Event where
  time : Nat
  input : Input

/-- The application, the time of the last input, and the times of the presses
    taken and of the uplinks requested, the latest first. -/
structure World where
  state : State
  now : Nat
  presses : List Nat
  uplinks : List Nat

/-- One input.  Time does not go back. -/
def step (value : Multiprotocol.Priority → Int) (s : World) (e : Event) :
    Option World :=
  if e.time < s.now then none
  else
    match e.input with
    | .buttonPressed =>
        let (state, posted) := userButtonCallback e.time s.state
        some { s with
          state
          now := e.time
          presses := note posted.isSome e.time s.presses }
    | .rangingResult r joined =>
        let (state, request) := rangingResultsCallback e.time r joined s.state
        some { s with
          state
          now := e.time
          uplinks := note request.isSome e.time s.uplinks }
    | .command c =>
        some { s with
          state := { s.state with app := (c.run value s.state.app).2 }
          now := e.time }

/-- Before `main`. -/
def start (value : Multiprotocol.Priority → Int) : World :=
  ⟨⟨Multiprotocol.init value, 0, ⟨0, 0, 0⟩⟩, 0, [], []⟩

/-! ## What is asked of them -/

/-- Presses taken are more than 500 ms apart and uplinks 60 s or more; a press is
    taken, and a result on a joined manager is sent, if the one before is so far
    back and less than a period of the clock. -/
def StepLimited (s : World) (e : Event) : Prop :=
  match e.input with
  | .buttonPressed =>
      Limited 501 s.presses e.time True
        ((userButtonCallback e.time s.state).2.isSome = true)
  | .rangingResult r joined =>
      Limited 60000 s.uplinks e.time
        (s.state.app.isManager = true ∧ joined = true)
        ((rangingResultsCallback e.time r joined s.state).2.isSome = true)
  | .command _ => True

/-- The input comes less than half a period after the last that was taken, or a
    whole period or more. -/
def StepInTime (s : World) (e : Event) : Prop :=
  match e.input with
  | .buttonPressed => InFirstHalf s.presses e.time
  | .rangingResult _ joined =>
      s.state.app.isManager = true ∧ joined = true →
        InFirstHalf s.uplinks e.time
  | .command _ => True

/-! ## One input -/

/-- The time of the last press, as the limiter keeps it. -/
def State.lastPress (s : State) : UInt32 := ⟨s.app.lastPressTimestampMs⟩

/-- The button is a limiter that reads signed differences, and keeps the reading
    when it takes a press. -/
theorem userButtonCallback_spec (uptime : Nat) (s : State) :
    ((userButtonCallback uptime s).2.isSome = true
        ↔ True ∧ ((501 : Nat) : Int)
          ≤ (reading uptime - s.lastPress).toBitVec.toInt)
      ∧ (userButtonCallback uptime s).1.lastPress
        = (if (userButtonCallback uptime s).2.isSome then reading uptime
          else s.lastPress)
      ∧ (userButtonCallback uptime s).1.lastUplinkTimestampMs
        = s.lastUplinkTimestampMs := by
  by_cases hlate : 500 < (reading uptime - s.lastPress).toBitVec.toInt
  · have hcallback : Multiprotocol.userButtonCallback
        (smtcModemHalGetTimeInMs uptime).toBitVec
        (smtcModemHalGetTimeInMs uptime).toBitVec s.app
        = ({ s.app with
              lastPressTimestampMs := (smtcModemHalGetTimeInMs uptime).toBitVec },
            some .buttonPress) := if_pos hlate
    rw [userButtonCallback, hcallback]
    exact ⟨⟨fun _ => ⟨trivial, hlate⟩, fun _ => rfl⟩, rfl, rfl⟩
  · have hcallback : Multiprotocol.userButtonCallback
        (smtcModemHalGetTimeInMs uptime).toBitVec
        (smtcModemHalGetTimeInMs uptime).toBitVec s.app
        = (s.app, none) := if_neg hlate
    rw [userButtonCallback, hcallback]
    exact ⟨⟨nofun, fun h => absurd h.2 hlate⟩, rfl, rfl⟩

/-- So are the uplinks, of a manager that has joined. -/
theorem rangingResultsCallback_spec (uptime : Nat) (r : RangingResult)
    (joined : Bool) (s : State) :
    ((rangingResultsCallback uptime r joined s).2.isSome = true
        ↔ (s.app.isManager = true ∧ joined = true) ∧ ((60000 : Nat) : Int)
          ≤ (reading uptime - s.lastUplinkTimestampMs).toBitVec.toInt)
      ∧ (rangingResultsCallback uptime r joined s).1.lastUplinkTimestampMs
        = (if (rangingResultsCallback uptime r joined s).2.isSome then
            reading uptime
          else s.lastUplinkTimestampMs)
      ∧ (rangingResultsCallback uptime r joined s).1.lastPress = s.lastPress := by
  rw [rangingResultsCallback]
  by_cases hmanager : s.app.isManager = true
  · rw [if_pos hmanager]
    by_cases hlate : RANGING_UPLINK_MAX_RATE ≤ (smtcModemHalGetTimeInMs uptime
        - s.lastUplinkTimestampMs).toBitVec.toInt
    · rw [if_pos hlate]
      cases joined with
      | true => exact ⟨⟨fun _ => ⟨⟨hmanager, rfl⟩, hlate⟩, fun _ => rfl⟩, rfl, rfl⟩
      | false => exact ⟨⟨nofun, fun h => absurd h.1.2 nofun⟩, rfl, rfl⟩
    · rw [if_neg hlate]
      exact ⟨⟨nofun, fun h => absurd h.2 hlate⟩, rfl, rfl⟩
  · rw [if_neg hmanager]
    exact ⟨⟨nofun, fun h => absurd h.1.1 hmanager⟩, rfl, rfl⟩

/-- The shell leaves the time of the last press. -/
theorem command_lastPress (value : Multiprotocol.Priority → Int)
    (c : Multiprotocol.Command) (app : Multiprotocol.State) :
    (c.run value app).2.lastPressTimestampMs = app.lastPressTimestampMs := by
  cases c with
  | rangingStart =>
      show (Multiprotocol.cmdRangingStart app).2.lastPressTimestampMs = _
      rw [Multiprotocol.cmdRangingStart]
      split
      · rfl
      · rfl
  | sendKeepalive => rfl
  | buttonPress => rfl
  | reqMacTime => rfl
  | setMode argv =>
      show (Multiprotocol.cmdSetMode value argv app).2.lastPressTimestampMs = _
      unfold Multiprotocol.cmdSetMode
      dsimp only
      repeat' split
      all_goals rfl

/-- Both limiters remember what they took. -/
structure Inv (s : World) : Prop where
  presses : Remembers s.state.lastPress s.presses s.now
  uplinks : Remembers s.state.lastUplinkTimestampMs s.uplinks s.now

/-- One input: what is asked of it is met exactly when it comes in time. -/
theorem step_limited {value : Multiprotocol.Priority → Int} {s t : World}
    {e : Event} (hs : Inv s) (h : step value s e = some t) :
    Inv t ∧ (StepLimited s e ↔ StepInTime s e) := by
  rw [step] at h
  obtain ⟨htime, h⟩ := Option.ite_none_left_eq_some.mp h
  have hle : s.now ≤ e.time := Nat.le_of_not_lt htime
  rw [StepLimited, StepInTime]
  cases hinput : e.input with
  | buttonPressed =>
      rw [hinput] at h
      obtain ⟨htakes, hpress, huplink⟩ := userButtonCallback_spec e.time s.state
      cases h
      refine ⟨⟨hs.presses.note hle hpress, ?_⟩, ?_⟩
      · show Remembers (userButtonCallback e.time s.state).1.lastUplinkTimestampMs
          _ _
        rw [huplink]
        exact hs.uplinks.later hle
      · dsimp only
        rw [limited_signed_iff hs.presses hle (by decide) htakes, true_imp_iff]
  | rangingResult r joined =>
      rw [hinput] at h
      obtain ⟨hsends, huplink, hpress⟩ :=
        rangingResultsCallback_spec e.time r joined s.state
      cases h
      refine ⟨⟨?_, hs.uplinks.note hle huplink⟩, ?_⟩
      · show Remembers
          (rangingResultsCallback e.time r joined s.state).1.lastPress _ _
        rw [hpress]
        exact hs.presses.later hle
      · exact limited_signed_iff hs.uplinks hle (by decide) hsends
  | command c =>
      rw [hinput] at h
      cases h
      refine ⟨⟨?_, hs.uplinks.later hle⟩, Iff.rfl⟩
      show Remembers ⟨(c.run value s.state.app).2.lastPressTimestampMs⟩ _ _
      rw [command_lastPress]
      exact hs.presses.later hle

/-! ## All inputs -/

/-- **DEBOUNCE AND RATE LIMIT** hold throughout a run exactly when no press and
    no result that could be sent comes in the second half of the clock's period
    after the last that was taken. -/
theorem rateLimited_iff (value : Multiprotocol.Priority → Int) (es : List Event)
    (s : World) (hrun : run (step value) (start value) es = some s) :
    Meets (step value) StepLimited (start value) es
      ↔ Meets (step value) StepInTime (start value) es :=
  meets_congr Inv (fun _ _ _ hs h => step_limited hs h)
    ⟨remembers_nil _ _, remembers_nil _ _⟩ hrun

/-- The values of the priorities do not matter here. -/
def noPriorities (_ : Multiprotocol.Priority) : Int := 0

/-- A ranging result of 100 m. -/
def nearby : RangingResult := ⟨100, 8, 3⟩

/-- A press, a bounce of it, a result, and a result after a minute. -/
def busyMinute : List Event :=
  [⟨60000, .buttonPressed⟩, ⟨60200, .buttonPressed⟩,
    ⟨61000, .rangingResult nearby true⟩, ⟨121000, .rangingResult nearby true⟩]

theorem rateLimited_busyMinute :
    Meets (step noPriorities) StepLimited (start noPriorities) busyMinute := by
  refine (rateLimited_iff noPriorities busyMinute _ rfl).mpr ?_
  refine .cons rfl nofun (.cons rfl ?_ (.cons rfl ?_ (.cons rfl ?_ trivial)))
  · rintro _ ⟨⟩
    exact Or.inl (by decide)
  · intro _
    exact nofun
  · rintro _ _ ⟨⟩
    exact Or.inl (by decide)

/-- A press one second after the reset, and one 25 days later. -/
def secondPress : List Event :=
  [⟨1000, .buttonPressed⟩, ⟨2147484648, .buttonPressed⟩]

/-- **A PRESS AFTER 25 DAYS IS TAKEN FOR A BOUNCE.** -/
theorem second_press_refused :
    (run (step noPriorities) (start noPriorities) secondPress).map (·.presses)
        = some [1000]
      ∧ ¬ Meets (step noPriorities) StepLimited (start noPriorities)
        secondPress := by
  refine ⟨rfl, ?_⟩
  intro h
  have hlimited := (h.2 _ rfl).1
  exact absurd (hlimited.prompt trivial 1000 rfl (by decide) (by decide))
    (by decide)

/-! ## The button of the FLRP application -/

/-- The application with the time of the last press and those taken. -/
structure FlrpWorld where
  app : FlrpApiLorawan.State
  now : Nat
  presses : List Nat

/-- A press at an uptime. -/
def flrpPress (uptime : Nat) (s : FlrpWorld) :
    FlrpApiLorawan.State × Option FlrpApiLorawan.Event :=
  FlrpApiLorawan.userButtonCallback (smtcModemHalGetTimeInMs uptime).toBitVec s.app

def flrpStep (s : FlrpWorld) (uptime : Nat) : Option FlrpWorld :=
  if uptime < s.now then none
  else
    let (app, posted) := flrpPress uptime s
    some ⟨app, uptime, note posted.isSome uptime s.presses⟩

def flrpStart : FlrpWorld := ⟨FlrpApiLorawan.init, 0, []⟩

/-- A limiter that reads unsigned differences. -/
theorem flrpPress_spec (uptime : Nat) (s : FlrpWorld) :
    ((flrpPress uptime s).2.isSome = true
        ↔ True ∧ 501 ≤ (reading uptime - ⟨s.app.lastPressTimestamp⟩).toNat)
      ∧ (⟨(flrpPress uptime s).1.lastPressTimestamp⟩ : UInt32)
        = if (flrpPress uptime s).2.isSome then reading uptime
          else ⟨s.app.lastPressTimestamp⟩ := by
  rw [flrpPress, FlrpApiLorawan.userButtonCallback]
  by_cases hlate : FlrpApiLorawan.BUTTON_TRIGGER_DELAY
      < (smtcModemHalGetTimeInMs uptime).toBitVec - s.app.lastPressTimestamp
  · rw [if_pos hlate]
    exact ⟨⟨fun _ => ⟨trivial, hlate⟩, fun _ => rfl⟩, rfl⟩
  · rw [if_neg hlate]
    exact ⟨⟨nofun, fun h => absurd h.2 hlate⟩, rfl⟩

/-- **THE FLRP BUTTON IS DEBOUNCED AT ANY UPTIME.** -/
theorem flrp_limited {uptimes : List Nat} {s : FlrpWorld}
    (hrun : run flrpStep flrpStart uptimes = some s) :
    Meets flrpStep
      (fun s uptime => Limited 501 s.presses uptime True
        ((flrpPress uptime s).2.isSome = true)) flrpStart uptimes := by
  refine (meets_congr
    (fun s : FlrpWorld => Remembers ⟨s.app.lastPressTimestamp⟩ s.presses s.now)
    ?_ (remembers_nil _ _) hrun).mpr (meets_of_forall (fun _ _ _ => trivial) _)
  intro s uptime t hs h
  obtain ⟨htime, h⟩ := Option.ite_none_left_eq_some.mp h
  have hle : s.now ≤ uptime := Nat.le_of_not_lt htime
  obtain ⟨htakes, hstamp⟩ := flrpPress_spec uptime s
  cases h
  exact ⟨hs.note hle hstamp, iff_true_intro (limited_unsigned hs hle htakes)⟩

end Debounce
