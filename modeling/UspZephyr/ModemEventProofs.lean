/-! # The modem event callback

    `modem_event_callback` gets events in a do-while loop.  What
    `smtc_modem_get_event` returns only goes to a log, so a call that fails, and
    leaves its outputs as they were, is followed by the switch on the event of
    the turn before, or on the zeroed one, which is RESET; and the loop goes by
    a count that was not written.  It also goes by a count of eight bits, which is
    0 when 256 events are left, and which the handlers' events come after.

    The modem's queue is a list, and what the handlers of each turn append to it
    another.  `dispatchesOnce_iff` is about every queue and every way of
    failing. -/

namespace ModemEvent

/-! ## Events -/

/-- `smtc_modem_event_type_t`; RESET is 0. -/
inductive EventType where
  | reset
  | alarm
  | joined
  | txdone
  | downdata
  | joinfail
  | alcsyncTime
  | linkCheck
  | classBPingSlotInfo
  | classBStatus
  | lorawanMacTime
  | lorawanFuotaDone
  | noMoreMulticastSessionClassC
  | noMoreMulticastSessionClassB
  | newMulticastSessionClassC
  | newMulticastSessionClassB
  | firmwareManagement
  | streamDone
  | uploadDone
  | dmSetConf
  | mute
  | relayTxDynamic
  | relayTxMode
  | relayTxSync
  | relayRxRunning
  | regionalDutyCycle
  | noDownlinkThreshold
  | testMode
  | unknown (code : UInt8)
  deriving DecidableEq

/-- The status of `SMTC_MODEM_EVENT_TEST_MODE`. -/
inductive TestModeStatus where
  | ended
  | txCompleted
  | txDone
  | rxDone
  | rxAborted
  deriving DecidableEq

/-- `smtc_modem_event_t`: of the data what the switch decides by. -/
structure Event where
  eventType : EventType
  fmpRebootImmediately : Bool
  relayRxStatus : Bool
  noDownlinkStatus : UInt8
  testModeStatus : TestModeStatus
  deriving DecidableEq

/-- `{ 0 }`. -/
def Event.zero : Event := ⟨.reset, false, false, 0, .ended⟩

/-! ## The switch -/

/-- The calls of the modem the switch makes. -/
inductive ModemCall where
  | setDeveui
  | setJoineui
  | setAppkey
  | setNwkkey
  | getChipEui
  | getPin
  | setRegion
  | relayTxEnable
  | joinNetwork
  | leaveNetwork
  | alarmClearTimer
  | getDownlinkData
  | csmaGetState
  | csmaSetState (enable : Bool)
  | testGetLastRxPackets
  | resetMcu
  deriving DecidableEq

/-- The parts of the build: `.._LR11XX_WITH_CREDENTIALS`, `.._RELAY_TX`,
    `ADD_CSMA` with `ADD_RELAY_RX`, and `ENABLE_CSMA_BY_DEFAULT`. -/
structure Config where
  withCredentials : Bool
  relayTx : Bool
  csmaAndRelayRx : Bool
  enableCsmaByDefault : Bool

/-- The switch; `csmaState` is what `smtc_modem_csma_get_state` answers. -/
def switch (cfg : Config) (csmaState : Bool) (e : Event) : List ModemCall :=
  match e.eventType with
  | .reset =>
      (if cfg.withCredentials then [.getChipEui, .getPin]
        else [.setDeveui, .setJoineui, .setAppkey, .setNwkkey])
      ++ [.setRegion] ++ (if cfg.relayTx then [.relayTxEnable] else [])
      ++ [.joinNetwork]
  | .downdata => [.getDownlinkData]
  | .firmwareManagement => if e.fmpRebootImmediately then [.resetMcu] else []
  | .relayRxRunning =>
      if cfg.csmaAndRelayRx then
        [.csmaGetState]
        ++ (if e.relayRxStatus && csmaState then [.csmaSetState false] else [])
        ++ (if cfg.enableCsmaByDefault && !e.relayRxStatus then
            [.csmaSetState true] else [])
      else []
  | .noDownlinkThreshold =>
      if e.noDownlinkStatus ≠ 0 then
        [.alarmClearTimer, .leaveNetwork, .joinNetwork]
      else []
  | .testMode =>
      if e.testModeStatus = .rxDone then [.testGetLastRxPackets] else []
  -- the other cases only log
  | _ => []

/-- The switch does not return: the firmware asks for a reboot. -/
def Event.reboots (e : Event) : Bool :=
  e.eventType = .firmwareManagement && e.fmpRebootImmediately

/-! ## The callback -/

/-- The modem's queue, what the handlers of this turn and the ones after append
    to it, the variables of the callback, and what has happened: the events
    popped, the runs of the switch with their calls, and the calls of
    `smtc_modem_helper_event`. -/
structure State where
  queue : List Event
  arrivals : List (List Event)
  callCount : Nat
  currentEvent : Event
  eventPendingCount : UInt8
  popped : List Event
  switched : List Event
  calls : List ModemCall
  helped : List EventType

/-- The callback as it is entered; `event_pending_count` is not initialised. -/
def State.start (queue : List Event) (arrivals : List (List Event))
    (uninit : UInt8) : State :=
  ⟨queue, arrivals, 0, .zero, uninit, [], [], [], []⟩

/-- `smtc_modem_get_event`: it pops the head and counts what is left, or fails,
    because the queue is empty or for another reason, and writes nothing. -/
def getEvent (fails : Nat → Bool) (s : State) : State :=
  match s.queue with
  | [] => { s with callCount := s.callCount + 1 }
  | e :: rest =>
      if fails s.callCount then { s with callCount := s.callCount + 1 }
      else
        { s with
          queue := rest
          callCount := s.callCount + 1
          currentEvent := e
          eventPendingCount := UInt8.ofNat rest.length
          popped := s.popped ++ [e] }

/-- The switch on the current event, with what its handlers append. -/
def runSwitch (cfg : Config) (csmaState : Nat → Bool) (s : State) : State :=
  { s with
    queue := s.queue ++ s.arrivals.headD []
    arrivals := s.arrivals.tail
    switched := s.switched ++ [s.currentEvent]
    calls := s.calls ++ switch cfg (csmaState s.callCount) s.currentEvent }

/-- `smtc_modem_helper_event`. -/
def helperEvent (s : State) : State :=
  { s with helped := s.helped ++ [s.currentEvent.eventType] }

/-- The modem and the build: what is answered, and which calls of
    `smtc_modem_get_event` fail with an event in the queue. -/
structure World where
  cfg : Config
  csmaState : Nat → Bool
  fails : Nat → Bool

/-- A turn of the loop, up to the end of the switch. -/
def turn (w : World) (s : State) : State :=
  runSwitch w.cfg w.csmaState (getEvent w.fails s)

/-- The do-while loop for at most `fuel` turns: whether the MCU was reset, and
    the state at the end. -/
def eventLoop (w : World) : Nat → State → Option (Bool × State)
  | 0, _ => none
  | fuel + 1, s =>
      if (turn w s).currentEvent.reboots then some (true, turn w s)
      else if 0 < (turn w s).eventPendingCount then
        eventLoop w fuel (helperEvent (turn w s))
      else some (false, helperEvent (turn w s))

/-! ## What is asked of it -/

/-- The loop ends, and the switch was run once for each event popped and for
    nothing else, in the order of the queue, and so was
    `smtc_modem_helper_event`, which a reset does not leave to the last.  Nothing
    is left in the queue, unless the MCU was reset or a call failed and popped
    nothing. -/
def DispatchesOnce (w : World) (queue : List Event) (arrivals : List (List Event))
    (uninit : UInt8) : Prop :=
  ∃ fuel reset s, eventLoop w fuel (.start queue arrivals uninit) = some (reset, s)
    ∧ s.switched = s.popped
    ∧ s.helped = (if reset then s.popped.dropLast else s.popped).map (·.eventType)
    ∧ s.popped <+: queue ++ arrivals.flatten
    ∧ (reset = true ∨ s.popped.length < s.callCount ∨ s.queue = [])

/-- Every call of `smtc_modem_get_event` finds an event and succeeds, until the MCU
    is reset or an event was the last one and its handlers append none.  Before
    that there is never a multiple of 256 events left: the count is a `uint8_t`. -/
inductive Served (fails : Nat → Bool) :
    Nat → List Event → List (List Event) → Prop where
  | reset {k : Nat} {e : Event} {rest : List Event} {arrivals : List (List Event)}
      (hcall : fails k = false) (hreboots : e.reboots = true) :
      Served fails k (e :: rest) arrivals
  | last {k : Nat} {e : Event} {arrivals : List (List Event)}
      (hcall : fails k = false) (hnew : arrivals.headD [] = []) :
      Served fails k [e] arrivals
  | next {k : Nat} {e : Event} {rest : List Event} {arrivals : List (List Event)}
      (hcall : fails k = false) (hreboots : e.reboots = false)
      (hleft : rest.length % 256 ≠ 0)
      (hserved : Served fails (k + 1) (rest ++ arrivals.headD []) arrivals.tail) :
      Served fails k (e :: rest) arrivals

/-! ## One turn -/

/-- A turn whose `smtc_modem_get_event` pops `e` and leaves `rest`. -/
structure Pops (w : World) (s : State) (e : Event) (rest : List Event) : Prop where
  currentEvent : (turn w s).currentEvent = e
  eventPendingCount : (turn w s).eventPendingCount = UInt8.ofNat rest.length
  popped : (turn w s).popped = s.popped ++ [e]
  switched : (turn w s).switched = s.switched ++ [e]
  helped : (turn w s).helped = s.helped
  callCount : (turn w s).callCount = s.callCount + 1
  queue : (turn w s).queue = rest ++ s.arrivals.headD []
  arrivals : (turn w s).arrivals = s.arrivals.tail

theorem turn_pops {w : World} {s : State} {e : Event} {rest : List Event}
    (hqueue : s.queue = e :: rest) (hcall : w.fails s.callCount = false) :
    Pops w s e rest := by
  have hget : getEvent w.fails s = { s with
      queue := rest
      callCount := s.callCount + 1
      currentEvent := e
      eventPendingCount := UInt8.ofNat rest.length
      popped := s.popped ++ [e] } := by
    rw [getEvent, hqueue]
    exact if_neg (by rw [hcall]; exact nofun)
  have hturn : turn w s = runSwitch w.cfg w.csmaState _ :=
    congrArg (runSwitch w.cfg w.csmaState) hget
  constructor
  all_goals rw [hturn]; rfl

/-- A turn whose call fails runs the switch all the same. -/
structure PopsNothing (w : World) (s : State) : Prop where
  popped : (turn w s).popped = s.popped
  switched : (turn w s).switched = s.switched ++ [s.currentEvent]
  callCount : (turn w s).callCount = s.callCount + 1
  queue : (turn w s).queue = s.queue ++ s.arrivals.headD []
  arrivals : (turn w s).arrivals = s.arrivals.tail

theorem turn_cases (w : World) (s : State) :
    (∃ e rest, s.queue = e :: rest ∧ w.fails s.callCount = false
        ∧ Pops w s e rest)
      ∨ PopsNothing w s := by
  cases hqueue : s.queue with
  | nil =>
      have hget : getEvent w.fails s
          = { s with callCount := s.callCount + 1 } := by
        rw [getEvent, hqueue]
      refine Or.inr ?_
      constructor
      all_goals rw [turn, hget]; rfl
  | cons e rest =>
      cases hcall : w.fails s.callCount with
      | true =>
          have hget : getEvent w.fails s
              = { s with callCount := s.callCount + 1 } := by
            rw [getEvent, hqueue]
            exact if_pos hcall
          refine Or.inr ?_
          constructor
          all_goals rw [turn, hget]; rfl
      | false => exact Or.inl ⟨e, rest, rfl, rfl, turn_pops hqueue hcall⟩

/-- What is popped comes off the front of what is queued or still to come. -/
def State.events (s : State) : List Event :=
  s.popped ++ s.queue ++ s.arrivals.flatten

theorem turn_events (w : World) (s : State) : (turn w s).events = s.events := by
  have happend : ∀ (queue : List Event) (arrivals : List (List Event)),
      queue ++ arrivals.headD [] ++ arrivals.tail.flatten
        = queue ++ arrivals.flatten := by
    intro queue arrivals
    cases arrivals with
    | nil => rw [List.headD_nil, List.append_nil, List.tail_nil]
    | cons new later =>
        rw [List.headD_cons, List.tail_cons, List.flatten_cons, List.append_assoc]
  rcases turn_cases w s with ⟨e, rest, hqueue, -, h⟩ | h
  · rw [State.events, h.popped, h.queue, h.arrivals, List.append_assoc, happend,
      State.events, hqueue]
    simp only [List.append_assoc, List.cons_append, List.nil_append]
  · rw [State.events, h.popped, h.queue, h.arrivals, List.append_assoc, happend,
      State.events, List.append_assoc]

/-- The count is zero at every 256 events. -/
theorem pending_iff (n : Nat) : 0 < UInt8.ofNat n ↔ n % 256 ≠ 0 := by
  rw [UInt8.lt_iff_toNat_lt, UInt8.toNat_ofNat']
  exact Nat.pos_iff_ne_zero

/-! ## Runs of the loop -/

/-- The loop ends in a reset, goes on, or ends. -/
theorem eventLoop_cases {w : World} {fuel : Nat} {s t : State} {reset : Bool}
    (h : eventLoop w (fuel + 1) s = some (reset, t)) :
    ((turn w s).currentEvent.reboots = true ∧ t = turn w s)
      ∨ ((turn w s).currentEvent.reboots = false
        ∧ 0 < (turn w s).eventPendingCount
        ∧ eventLoop w fuel (helperEvent (turn w s)) = some (reset, t))
      ∨ (reset = false ∧ ¬ 0 < (turn w s).eventPendingCount
        ∧ t = helperEvent (turn w s)) := by
  rw [eventLoop] at h
  by_cases hreboots : (turn w s).currentEvent.reboots = true
  · rw [if_pos hreboots] at h
    cases h
    exact Or.inl ⟨hreboots, rfl⟩
  · rw [if_neg hreboots] at h
    by_cases hpending : 0 < (turn w s).eventPendingCount
    · rw [if_pos hpending] at h
      exact Or.inr (Or.inl ⟨Bool.eq_false_iff.mpr hreboots, hpending, h⟩)
    · rw [if_neg hpending] at h
      cases h
      exact Or.inr (Or.inr ⟨rfl, hpending, rfl⟩)

theorem eventLoop_events {w : World} {fuel : Nat} {s t : State} {reset : Bool}
    (h : eventLoop w fuel s = some (reset, t)) : t.events = s.events := by
  induction fuel generalizing s with
  | zero => cases h
  | succ fuel ih =>
      have hturn := turn_events w s
      rcases eventLoop_cases h with ⟨-, rfl⟩ | ⟨-, -, h⟩ | ⟨-, -, rfl⟩
      · exact hturn
      · exact (ih h).trans hturn
      · exact hturn

/-- Each turn makes one call and runs the switch once. -/
theorem eventLoop_callCount {w : World} {fuel : Nat} {s t : State} {reset : Bool}
    (h : eventLoop w fuel s = some (reset, t)) :
    t.callCount + s.switched.length = s.callCount + t.switched.length := by
  induction fuel generalizing s with
  | zero => cases h
  | succ fuel ih =>
      have hturn : (turn w s).callCount + s.switched.length
          = s.callCount + (turn w s).switched.length := by
        rcases turn_cases w s with ⟨e, rest, -, -, hpops⟩ | hnothing
        · rw [hpops.callCount, hpops.switched, List.length_append,
            List.length_singleton]
          omega
        · rw [hnothing.callCount, hnothing.switched, List.length_append,
            List.length_singleton]
          omega
      rcases eventLoop_cases h with ⟨-, rfl⟩ | ⟨-, -, h⟩ | ⟨-, -, rfl⟩
      · exact hturn
      · have hrest := ih h
        dsimp only [helperEvent] at hrest
        omega
      · exact hturn

/-- Each turn runs the switch and pops at most one event, so a run that pops as
    many as it dispatches was served at every call, to the end of the queue. -/
theorem eventLoop_served {w : World} {fuel : Nat} {s t : State} {reset : Bool}
    (h : eventLoop w fuel s = some (reset, t)) :
    t.popped.length + s.switched.length ≤ t.switched.length + s.popped.length
      ∧ (t.switched.length + s.popped.length
          = t.popped.length + s.switched.length →
        reset = true ∨ t.queue = [] →
        Served w.fails s.callCount s.queue s.arrivals) := by
  induction fuel generalizing s with
  | zero => cases h
  | succ fuel ih =>
      have hcases := eventLoop_cases h
      rcases turn_cases w s with ⟨e, rest, hqueue, hcall, hpops⟩ | hnothing
      · have hpopped := congrArg List.length hpops.popped
        have hswitched := congrArg List.length hpops.switched
        rw [List.length_append, List.length_singleton] at hpopped hswitched
        rw [hpops.currentEvent, hpops.eventPendingCount, pending_iff] at hcases
        rw [hqueue]
        rcases hcases with ⟨hreboots, rfl⟩ | ⟨hgoes, hleft, hrest⟩
          | ⟨hreset, -, rfl⟩
        · exact ⟨by omega, fun _ _ => .reset hcall hreboots⟩
        · obtain ⟨hle, hserved⟩ := ih hrest
          dsimp only [helperEvent] at hle hserved
          refine ⟨by omega, ?_⟩
          intro heq hend
          have hnext := hserved (by omega) hend
          rw [hpops.callCount, hpops.queue, hpops.arrivals] at hnext
          exact .next hcall hgoes hleft hnext
        · dsimp only [helperEvent]
          refine ⟨by omega, ?_⟩
          rintro - (hend | hend)
          · exact absurd (hreset.symm.trans hend) nofun
          · obtain ⟨hrest, hnew⟩ :=
              List.append_eq_nil_iff.mp (hpops.queue.symm.trans hend)
            subst hrest
            exact .last hcall hnew
      · -- nothing was popped, and the switch was run all the same
        have hpopped := congrArg List.length hnothing.popped
        have hswitched := congrArg List.length hnothing.switched
        rw [List.length_append, List.length_singleton] at hswitched
        rcases hcases with ⟨-, rfl⟩ | ⟨-, -, hrest⟩ | ⟨-, -, rfl⟩
        · exact ⟨by omega, fun heq => by omega⟩
        · obtain ⟨hle, -⟩ := ih hrest
          dsimp only [helperEvent] at hle
          exact ⟨by omega, fun heq => by omega⟩
        · dsimp only [helperEvent]
          exact ⟨by omega, fun heq => by omega⟩

/-- What holds between two turns of a run that is served. -/
structure InStep (s : State) : Prop where
  switched : s.switched = s.popped
  helped : s.helped = s.popped.map (·.eventType)

theorem Pops.inStep {w : World} {s : State} {e : Event} {rest : List Event}
    (h : Pops w s e rest) (hs : InStep s) : InStep (helperEvent (turn w s)) := by
  constructor
  · show (turn w s).switched = (turn w s).popped
    rw [h.switched, h.popped, hs.switched]
  · show (turn w s).helped ++ [(turn w s).currentEvent.eventType]
      = (turn w s).popped.map (·.eventType)
    rw [h.helped, h.currentEvent, h.popped, List.map_append, hs.helped]
    rfl

/-- What a run leaves that dispatches each event once. -/
def Dispatched (reset : Bool) (t : State) : Prop :=
  t.switched = t.popped
    ∧ t.helped = (if reset then t.popped.dropLast else t.popped).map (·.eventType)
    ∧ (reset = true ∨ t.queue = [])

/-- A turn that pops an event which reboots the MCU is the last one. -/
theorem Pops.reset {w : World} {s : State} {e : Event} {rest : List Event}
    (h : Pops w s e rest) (hs : InStep s) (hreboots : e.reboots = true) :
    eventLoop w 1 s = some (true, turn w s) ∧ Dispatched true (turn w s) := by
  refine ⟨?_, (h.inStep hs).switched, ?_, Or.inl rfl⟩
  · rw [eventLoop, h.currentEvent, if_pos hreboots]
  · rw [if_pos rfl, h.popped, List.dropLast_concat, h.helped]
    exact hs.helped

/-- A run that is served dispatches what it pops, and pops everything. -/
theorem served_eventLoop {w : World} {k : Nat} {queue : List Event}
    {arrivals : List (List Event)} (h : Served w.fails k queue arrivals) {s : State}
    (hk : s.callCount = k) (hqueue : s.queue = queue)
    (harrivals : s.arrivals = arrivals) (hs : InStep s) :
    ∃ fuel reset t, eventLoop w fuel s = some (reset, t) ∧ Dispatched reset t := by
  induction h generalizing s with
  | reset hcall hreboots =>
      subst hk
      have hpops := turn_pops hqueue hcall
      exact ⟨1, true, turn w s, hpops.reset hs hreboots⟩
  | @last k e arrivals hcall hnew =>
      subst hk
      have hpops := turn_pops hqueue hcall
      cases hreboots : e.reboots with
      | true => exact ⟨1, true, turn w s, hpops.reset hs hreboots⟩
      | false =>
          have hinStep := hpops.inStep hs
          refine ⟨1, false, helperEvent (turn w s), ?_, hinStep.switched,
            hinStep.helped, Or.inr ?_⟩
          · rw [eventLoop, hpops.currentEvent, if_neg (by rw [hreboots]; exact nofun),
              hpops.eventPendingCount, if_neg (by decide)]
          · show (turn w s).queue = []
            rw [hpops.queue, harrivals, hnew]
            rfl
  | @next k e rest arrivals hcall hreboots hleft _ ih =>
      subst hk
      have hpops := turn_pops hqueue hcall
      obtain ⟨fuel, reset, t, hloop, hend⟩ := ih (s := helperEvent (turn w s))
        hpops.callCount (by rw [← harrivals]; exact hpops.queue)
        (by rw [← harrivals]; exact hpops.arrivals) (hpops.inStep hs)
      refine ⟨fuel + 1, reset, t, ?_, hend⟩
      rw [eventLoop, hpops.currentEvent, if_neg (by rw [hreboots]; exact nofun),
        hpops.eventPendingCount, if_pos ((pending_iff _).mpr hleft)]
      exact hloop

/-- **EVERY EVENT ONCE, IF NO CALL FAILS**: the callback dispatches each event in
    the queue once, and nothing else, exactly if every call of
    `smtc_modem_get_event` it makes gets an event, the count of eight bits never
    wraps to 0 and the handlers of the last event append none. -/
theorem dispatchesOnce_iff (w : World) (queue : List Event)
    (arrivals : List (List Event)) (uninit : UInt8) :
    DispatchesOnce w queue arrivals uninit ↔ Served w.fails 0 queue arrivals := by
  constructor
  · rintro ⟨fuel, reset, t, hloop, hswitched, -, -, hend⟩
    refine (eventLoop_served hloop).2 ?_ ?_
    · rw [hswitched]
      rfl
    · have hcalls : t.callCount = t.popped.length := by
        rw [← hswitched, ← Nat.zero_add t.switched.length]
        exact eventLoop_callCount hloop
      rcases hend with hreset | hfailed | hempty
      · exact Or.inl hreset
      · exact absurd hfailed (by omega)
      · exact Or.inr hempty
  · intro hserved
    obtain ⟨fuel, reset, t, hloop, hswitched, hhelped, hend⟩ :=
      served_eventLoop hserved (s := .start queue arrivals uninit) rfl rfl rfl
        ⟨rfl, rfl⟩
    refine ⟨fuel, reset, t, hloop, hswitched, hhelped, ?_,
      hend.imp_right Or.inr⟩
    have hevents := eventLoop_events hloop
    rw [State.events, List.append_assoc] at hevents
    exact ⟨_, hevents⟩

/-- **A COUNT THAT WRAPS ENDS THE LOOP**: behind an event that leaves 256 in the
    queue, or any multiple, none of them is dispatched. -/
theorem wrapped_count_ends (w : World) {e : Event} {rest : List Event}
    (arrivals : List (List Event)) (uninit : UInt8) (hcall : w.fails 0 = false)
    (hreboots : e.reboots = false) (hleft : rest.length % 256 = 0) :
    ∃ s, eventLoop w 1 (.start (e :: rest) arrivals uninit) = some (false, s)
      ∧ s.popped = [e] ∧ s.queue = rest ++ arrivals.headD [] := by
  have hpops : Pops w (.start (e :: rest) arrivals uninit) e rest :=
    turn_pops rfl hcall
  refine ⟨helperEvent (turn w _), ?_, hpops.popped, hpops.queue⟩
  rw [eventLoop, hpops.currentEvent, if_neg (by rw [hreboots]; exact nofun),
    hpops.eventPendingCount,
    if_neg (mt (pending_iff _).mp fun hne => hne hleft)]

/-- A build with the credentials of the application and without relays. -/
def plainConfig : Config := ⟨false, false, false, false⟩

/-- **NO EVENT AT ALL, AND A JOIN**: with an empty queue and a count that happens
    to be 0, the credentials are set and a join is started for a RESET that
    nobody queued. -/
theorem empty_queue_joins :
    (∃ s, eventLoop ⟨plainConfig, fun _ => false, fun _ => false⟩ 1
        (.start [] [] 0) = some (false, s)
      ∧ s.popped = [] ∧ s.switched = [.zero] ∧ .joinNetwork ∈ s.calls)
      ∧ ¬ DispatchesOnce ⟨plainConfig, fun _ => false, fun _ => false⟩ [] [] 0 := by
  refine ⟨⟨_, rfl, rfl, rfl, by decide⟩, ?_⟩
  rintro ⟨fuel, reset, t, hloop, hswitched, -, -⟩
  cases fuel with
  | zero => cases hloop
  | succ fuel =>
      cases hloop
      cases hswitched

end ModemEvent
