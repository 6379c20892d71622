import UspZephyr.EventWordProofs

/-! # The main loops of the multiprotocol and FLRP applications

    Both applications post their button presses and shell commands in one event
    word and serve it from the loop of `main`.  The commands run in a shell
    thread: what one decides and its `k_event_set` are two steps, with anything
    in between.  The button is an interrupt.

    `no_event_lost` says that only a post over unread events of other kinds, or
    one while the handler of its own kind runs, loses an event; `keepalive_lost`
    is such a loss in each application. -/

namespace MainLoop

open EventWord StepRun

def EINVAL : Int := 22

/-- `strcasecmp( a, b ) == 0`. -/
def strcasecmp (a b : String) : Bool := a.toLower == b.toLower

/-! ## The multiprotocol application -/

namespace Multiprotocol

/-- `multiprotocol_event_t`. -/
inductive Event where
  | buttonPress
  | ranging
  | setMode
  | keepalive
  | reqMacTime
  deriving DecidableEq, Repr

def bit : Event → Fin 32
  | .buttonPress => ⟨0, by decide⟩
  | .ranging => ⟨1, by decide⟩
  | .setMode => ⟨2, by decide⟩
  | .keepalive => ⟨3, by decide⟩
  | .reqMacTime => ⟨4, by decide⟩

/-- The order of the tests in `main`. -/
def order : List Event :=
  [.buttonPress, .ranging, .setMode, .keepalive, .reqMacTime]

theorem bit_injective : Function.Injective bit := by
  intro j k h
  cases j <;> cases k <;> first | rfl | exact absurd h (by decide)

theorem mem_order (k : Event) : k ∈ order := by
  cases k <;> simp [order]

def kinds : Kinds Event := ⟨bit, order, bit_injective, mem_order⟩

/-- `smtc_rac_priority_t`. -/
inductive Priority where
  | veryHigh
  | high
  | medium
  | low
  | veryLow
  deriving DecidableEq, Repr

/-- The variables of the application.  `posting` has the events of the commands
    that have come to their `k_event_set`. -/
structure State where
  isModeSet : Bool
  isManager : Bool
  racPriority : Int
  lastPressTimestampMs : BitVec 32
  posting : List Event

/-- A command comes to `k_event_set( &main_loop_event, event )`. -/
def State.toPost (event : Event) (s : State) : State :=
  { s with posting := event :: s.posting }

/-- The commands that post. -/
inductive Command where
  | rangingStart
  | sendKeepalive
  | buttonPress
  | reqMacTime
  | setMode (argv : List String)

inductive Action where
  /-- The interrupt of the button, and what the clock says the two times it is
      asked. -/
  | buttonPressed (now later : BitVec 32)
  | command (c : Command)
  | kEventSet (event : Event)

section Commands

-- the values of the constants of the priorities
variable (value : Priority → Int)

/-- `0` when there is no such priority. -/
def getPriorityFromStr (priority : String) : Int :=
  if strcasecmp priority "VERY_HIGH" then value .veryHigh
  else if strcasecmp priority "HIGH" then value .high
  else if strcasecmp priority "MEDIUM" then value .medium
  else if strcasecmp priority "LOW" then value .low
  else if strcasecmp priority "VERY_LOW" then value .veryLow
  else 0

def cmdRangingStart (s : State) : Int × State :=
  if s.isModeSet then (0, s.toPost .ranging) else (-1, s)

def cmdSendKeepalive (s : State) : Int × State := (0, s.toPost .keepalive)

def cmdButtonPress (s : State) : Int × State := (0, s.toPost .buttonPress)

def cmdReqMacTime (s : State) : Int × State := (0, s.toPost .reqMacTime)

def cmdSetMode (argv : List String) (s : State) : Int × State :=
  if s.isModeSet then (0, s)
  else
    match argv with
    | [_, mode, priority] =>
        let racPriority := getPriorityFromStr value priority
        if racPriority = 0 then (-EINVAL, s)
        else if strcasecmp mode "manager" then
          (0, { s with isManager := true, racPriority }.toPost .setMode)
        else if strcasecmp mode "subordinate" then
          (0, { s with isManager := false, racPriority }.toPost .setMode)
        else (-EINVAL, s)
    | _ => (-EINVAL, s)

def Command.run : Command → State → Int × State
  | .rangingStart => cmdRangingStart
  | .sendKeepalive => cmdSendKeepalive
  | .buttonPress => cmdButtonPress
  | .reqMacTime => cmdReqMacTime
  | .setMode argv => cmdSetMode value argv

/-- `user_button_callback`, with the event it posts. -/
def userButtonCallback (now later : BitVec 32) (s : State) :
    State × Option Event :=
  if 500 < (now - s.lastPressTimestampMs).toInt then
    ({ s with lastPressTimestampMs := later }, some .buttonPress)
  else (s, none)

def act : Action → State → Option (State × Option Event)
  | .buttonPressed now later, s => some (userButtonCallback now later s)
  | .command c, s => some ((c.run value s).2, none)
  | .kEventSet event, s =>
      if event ∈ s.posting then
        some ({ s with posting := s.posting.erase event }, some event)
      else none

/-- What the handlers change.  The radio exchange, the uplink and the request for
    the time that the others start are not variables of the application. -/
def handle : Event → State → State
  | .setMode, s => if s.isModeSet then s else { s with isModeSet := true }
  | _, s => s

/-- The application around its event word. -/
def application : Application Event Action State where
  toKinds := kinds
  act := act value
  handle := handle

/-- The variables before `main`. -/
def init : State := ⟨false, true, value .low, 0#32, []⟩

end Commands

end Multiprotocol

/-! ## The FLRP application -/

namespace FlrpApiLorawan

/-- `flrp_api_event_t`. -/
inductive Event where
  | buttonPress
  | keepalive
  deriving DecidableEq, Repr

def bit : Event → Fin 32
  | .buttonPress => ⟨0, by decide⟩
  | .keepalive => ⟨1, by decide⟩

/-- The order of the tests in `main`. -/
def order : List Event := [.buttonPress, .keepalive]

theorem bit_injective : Function.Injective bit := by
  intro j k h
  cases j <;> cases k <;> first | rfl | exact absurd h (by decide)

theorem mem_order (k : Event) : k ∈ order := by
  cases k <;> simp [order]

def kinds : Kinds Event := ⟨bit, order, bit_injective, mem_order⟩

/-- `user_button`, and the events of the commands that have come to
    `main_loop_set_event`. -/
structure State where
  lastPressTimestamp : BitVec 32
  posting : List Event

inductive Action where
  | buttonPressed (timestamp : BitVec 32)
  /-- The shell command `uplink`. -/
  | sendKeepalive (argc : Nat)
  | mainLoopSetEvent (event : Event)

/-- `BUTTON_TRIGGER_DELAY`, in milliseconds. -/
def BUTTON_TRIGGER_DELAY : BitVec 32 := 500#32

def cmdSendKeepalive (argc : Nat) (s : State) : Int × State :=
  if argc ≠ 1 then (-EINVAL, s)
  else (0, { s with posting := .keepalive :: s.posting })

/-- `user_button_callback`, with the event it posts. -/
def userButtonCallback (timestamp : BitVec 32) (s : State) :
    State × Option Event :=
  if BUTTON_TRIGGER_DELAY < timestamp - s.lastPressTimestamp then
    ({ s with lastPressTimestamp := timestamp }, some .buttonPress)
  else (s, none)

def act : Action → State → Option (State × Option Event)
  | .buttonPressed timestamp, s => some (userButtonCallback timestamp s)
  | .sendKeepalive argc, s => some ((cmdSendKeepalive argc s).2, none)
  | .mainLoopSetEvent event, s =>
      if event ∈ s.posting then
        some ({ s with posting := s.posting.erase event }, some event)
      else none

/-- The application around its event word.  Its handlers send, and change no
    variable of it. -/
def application : Application Event Action State where
  toKinds := kinds
  act := act
  handle := fun _ s => s

def init : State := ⟨0#32, []⟩

end FlrpApiLorawan

/-! ## Posts and their handling -/

/-- **NO EVENT IS LOST** in a run of either application in which every post finds
    no unread event of another kind in the word, and not the handler of its own
    kind started by the iteration that is going on. -/
theorem no_event_lost (value : Multiprotocol.Priority → Int) :
    (∀ es u,
      run (step (Multiprotocol.application value))
          (start (Multiprotocol.init value)) es = some u →
      Meets (step (Multiprotocol.application value))
          (StepSpares (Multiprotocol.application value))
          (start (Multiprotocol.init value)) es →
      EveryPostHandled (Multiprotocol.application value)
          (start (Multiprotocol.init value)) es)
    ∧ ∀ es u,
      run (step FlrpApiLorawan.application) (start FlrpApiLorawan.init) es
          = some u →
      Meets (step FlrpApiLorawan.application)
          (StepSpares FlrpApiLorawan.application) (start FlrpApiLorawan.init) es →
      EveryPostHandled FlrpApiLorawan.application (start FlrpApiLorawan.init) es :=
  ⟨fun _ _ => every_post_handled, fun _ _ => every_post_handled⟩

/-- A keepalive, and the button pressed when the keepalive has been read. -/
def keepaliveThenButton : List (Step FlrpApiLorawan.Action) :=
  [.act (.sendKeepalive 1), .act (.mainLoopSetEvent .keepalive), .loop,
    .act (.buttonPressed 1000#32), .loop, .loop, .loop, .loop, .loop, .loop]

theorem no_event_lost_keepaliveThenButton :
    EveryPostHandled FlrpApiLorawan.application (start FlrpApiLorawan.init)
      keepaliveThenButton := by
  refine (no_event_lost fun _ => 1).2 keepaliveThenButton _ rfl ?_
  have hloops : ∀ s, Meets (step FlrpApiLorawan.application)
      (StepSpares FlrpApiLorawan.application) s
      [.loop, .loop, .loop, .loop, .loop, .loop] := by
    refine meets_of_forall ?_
    intro e he s a app' k hact
    rw [List.eq_of_mem_replicate (n := 6) he] at hact
    exact nomatch hact
  refine .cons rfl (fun _ _ _ ha h => ?_) (.cons rfl (fun _ _ _ ha h => ?_)
    (.cons rfl nofun (.cons rfl (fun _ _ _ ha h => ?_) (hloops _))))
  · cases ha
    exact nomatch h
  · -- the word is empty
    cases ha
    cases h
    exact ⟨nofun, nofun⟩
  · -- the keepalive has been read
    cases ha
    cases h
    refine ⟨?_, nofun⟩
    intro j hword hevent
    cases j with
    | buttonPress => rfl
    | keepalive => exact nomatch hevent

/-- An event that is not waiting is not handled by the loop alone, however long
    it runs. -/
theorem not_handled_by_loop {K A σ : Type} {app : Application K A σ}
    {s : EventWord.State K σ} {k : K} (h : ¬ Waiting app s k) (n : Nat) :
    ¬ HandledIn app s k (List.replicate n .loop) := by
  refine not_waiting_handled h (meets_of_forall ?_ s)
  intro e he t a app' hact
  rw [List.eq_of_mem_replicate he] at hact
  exact nomatch hact

/-- A keepalive is posted, and the button pressed before the loop reads the word:
    however long the loop runs, the keepalive is not handled. -/
theorem keepalive_lost :
    (∃ s, run (step (Multiprotocol.application fun _ => 1))
          (start (Multiprotocol.init fun _ => 1))
          [.act (.command .sendKeepalive), .act (.kEventSet .keepalive),
            .act (.buttonPressed 1000#32 1000#32)] = some s
        ∧ ∀ n, ¬ HandledIn (Multiprotocol.application fun _ => 1) s .keepalive
          (List.replicate n .loop))
      ∧ ∃ s, run (step FlrpApiLorawan.application) (start FlrpApiLorawan.init)
          [.act (.sendKeepalive 1), .act (.mainLoopSetEvent .keepalive),
            .act (.buttonPressed 1000#32)] = some s
        ∧ ∀ n, ¬ HandledIn FlrpApiLorawan.application s .keepalive
          (List.replicate n .loop) := by
  -- the word has the bit of the button only
  constructor
  · refine ⟨_, rfl, not_handled_by_loop ?_⟩
    rintro (⟨-, htodo⟩ | ⟨hword, -⟩)
    · exact nomatch htodo
    · exact nomatch hword
  · refine ⟨_, rfl, not_handled_by_loop ?_⟩
    rintro (⟨-, htodo⟩ | ⟨hword, -⟩)
    · exact nomatch htodo
    · exact nomatch hword

end MainLoop
