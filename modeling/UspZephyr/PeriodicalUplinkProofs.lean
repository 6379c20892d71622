import UspZephyr.ButtonLoopProofs

/-! # The counter of the periodical uplinks

    `send_uplink_counter_on_port` sends a counter and increments it.  It is called
    from `main`, on a press of the button, and from the events of the modem, which
    come in the engines.

    `uplinks_numbered_iff` says that the payloads count up without a gap or a
    repetition, over both ports, unless the engines run in a thread that interrupts
    `main`. -/

namespace PeriodicalUplink

open ButtonLoop StepRun

/-! ## The program -/

/-- The builds that `prj.conf` describes: without `CONFIG_USP_MAIN_THREAD`, with the
    priorities -2 and -4 that it sets, and with the priorities 3 and 1 that it
    has in a comment. -/
inductive Build where
  | oneThread
  | cooperative
  | preemptive
  deriving DecidableEq, Repr

/-- `CONFIG_USP_MAIN_THREAD`. -/
def Build.uspMainThread : Build → Bool
  | .oneThread => false
  | .cooperative | .preemptive => true

/-- `( uplink_counter >> ( 24 - 8 * i ) ) & 0xFF`. -/
def counterByte (uplinkCounter : BitVec 32) (i : Nat) : BitVec 8 :=
  ((uplinkCounter >>> (24 - 8 * i)) &&& 0xFF#32).setWidth 8

/-- What the buffer holds when all of it is written. -/
def counterBytes (uplinkCounter : BitVec 32) : List (BitVec 8) :=
  (List.range 4).map (counterByte uplinkCounter)

/-- The next statement of `send_uplink_counter_on_port`. -/
inductive Send where
  /-- The next byte of `buff` is written. -/
  | read (buff : List (BitVec 8))
  | requestUplink (buff : List (BitVec 8))
  | increment
  deriving DecidableEq

structure Uplinks where
  uplinkCounter : BitVec 32
  /-- The ports and payloads of `smtc_modem_request_uplink` so far. -/
  requests : List (Nat × List (BitVec 8))
  /-- What `smtc_modem_get_status` answers. -/
  joined : Bool
  /-- `main` is between `smtc_modem_get_status` and `smtc_modem_hal_wake_up`. -/
  mainSends : Bool
  /-- Where the event handler is in its call. -/
  handler : Option Send

/-- One statement of `send_uplink_counter_on_port`, and the one after it. -/
def sendUplinkCounterOnPort (port : Nat) (s : Uplinks) :
    Send → Uplinks × Option Send
  | .read buff =>
      let buff' := buff ++ [counterByte s.uplinkCounter buff.length]
      (s, some (if buff.length < 3 then .read buff' else .requestUplink buff'))
  | .requestUplink buff =>
      ({ s with requests := s.requests ++ [(port, buff)] }, some .increment)
  | .increment => ({ s with uplinkCounter := s.uplinkCounter + 1 }, none)

/-- The statements of `main` on a press. -/
inductive Stmt where
  | getStatus
  | send (x : Send)
  | wakeUp
  deriving DecidableEq

/-- The statements, in any build. -/
def onPress : Stmt → Uplinks → Outcome Stmt Uplinks
  | .getStatus, s =>
      ⟨{ s with mainSends := s.joined }, false,
        if s.joined then some (.send (.read [])) else none⟩
  | .send x, s =>
      let r := sendUplinkCounterOnPort 102 s x
      ⟨r.1, false, some (r.2.elim .wakeUp .send)⟩
  | .wakeUp, s => ⟨{ s with mainSends := false }, true, none⟩

/-- The event handler keeps `main` from running: its thread has the higher priority,
    or is `main`. -/
def statement (c : Stmt) (s : Uplinks) : Option (Outcome Stmt Uplinks) :=
  if s.handler = none then some (onPress c s) else none

inductive Event where
  /-- The modem joins or leaves the network. -/
  | joined (joined : Bool)
  /-- `smtc_modem_helper_event` for `SMTC_MODEM_EVENT_ALARM` or
      `SMTC_MODEM_EVENT_JOINED`. -/
  | helperEvent
  /-- Its next statement. -/
  | handler

/-- The engines can have an event: in `main`, or in their thread.  The cooperative one
    waits until `main` blocks, which it does not do while it sends. -/
def Build.runsEngines (b : Build) (inEngines mainSends : Bool) : Bool :=
  match b with
  | .oneThread => inEngines
  | .cooperative => !mainSends
  | .preemptive => true

/-- What comes beside `main`. -/
def other (b : Build) (inEngines : Bool) : Event → Uplinks → Option Uplinks
  | .joined joined, s => some { s with joined := joined }
  | .helperEvent, s =>
      if b.runsEngines inEngines s.mainSends = true ∧ s.handler = none then
        some { s with handler := some (.read []) }
      else none
  | .handler, s =>
      s.handler.map fun x =>
        let r := sendUplinkCounterOnPort 101 s x
        { r.1 with handler := r.2 }

def app (b : Build) : App Stmt Uplinks Event where
  uspMainThread := b.uspMainThread
  onPress := .getStatus
  statement := statement
  quiet := fun s => s.handler.isNone
  other := other b

def start : Uplinks := ⟨0, [], false, false, none⟩

/-- The payloads are the numbers from 0 on. -/
def Numbered (s : Uplinks) : Prop :=
  s.requests.map Prod.snd
    = (List.range s.requests.length).map fun k => counterBytes (BitVec.ofNat 32 k)

instance (s : Uplinks) : Decidable (Numbered s) :=
  inferInstanceAs (Decidable (_ = _))

/-! ## One sender -/

/-- The counter, with `x` the statement that the only sender is at. -/
structure Sends (x : Option Send) (s : Uplinks) : Prop where
  numbered : Numbered s
  counter : x ≠ some .increment →
    s.uplinkCounter = BitVec.ofNat 32 s.requests.length
  increment : x = some .increment →
    s.uplinkCounter + 1 = BitVec.ofNat 32 s.requests.length
  read : ∀ buff, x = some (.read buff) → buff.length ≤ 3
    ∧ buff = (List.range buff.length).map (counterByte s.uplinkCounter)
  requestUplink : ∀ buff, x = some (.requestUplink buff) →
    buff = counterBytes s.uplinkCounter

theorem Sends.congr {x : Option Send} {s t : Uplinks} (h : Sends x s)
    (hcounter : t.uplinkCounter = s.uplinkCounter)
    (hrequests : t.requests = s.requests) : Sends x t := by
  obtain ⟨uplinkCounter, requests, joined, mainSends, handler⟩ := t
  cases hcounter
  cases hrequests
  exact ⟨h.numbered, h.counter, h.increment, h.read, h.requestUplink⟩

theorem Sends.begin {s : Uplinks} (h : Sends none s) :
    Sends (some (.read [])) s where
  numbered := h.numbered
  counter := fun _ => h.counter nofun
  increment := nofun
  read := by
    intro buff hbuff
    cases hbuff
    exact ⟨Nat.zero_le _, rfl⟩
  requestUplink := nofun

theorem send_frame (port : Nat) (s : Uplinks) (x : Send) :
    (sendUplinkCounterOnPort port s x).1.handler = s.handler
      ∧ (sendUplinkCounterOnPort port s x).1.mainSends = s.mainSends := by
  cases x <;> exact ⟨rfl, rfl⟩

/-- **ONE STATEMENT** of the sender. -/
theorem send_sends (port : Nat) {x : Send} {s : Uplinks} (h : Sends (some x) s) :
    Sends (sendUplinkCounterOnPort port s x).2
      (sendUplinkCounterOnPort port s x).1 := by
  cases x with
  | read buff =>
      obtain ⟨hle, hbuff⟩ := h.read buff rfl
      have hnext : buff ++ [counterByte s.uplinkCounter buff.length]
          = (List.range (buff.length + 1)).map (counterByte s.uplinkCounter) := by
        rw [List.range_succ, List.map_append, ← hbuff]
        rfl
      rw [sendUplinkCounterOnPort]
      by_cases hshort : buff.length < 3
      · rw [if_pos hshort]
        refine ⟨h.numbered, fun _ => h.counter nofun, nofun, fun buff' hbuff' => ?_,
          nofun⟩
        cases hbuff'
        rw [List.length_append]
        exact ⟨Nat.succ_le_of_lt hshort, hnext⟩
      · rw [if_neg hshort]
        refine ⟨h.numbered, fun _ => h.counter nofun, nofun, nofun,
          fun buff' hbuff' => ?_⟩
        cases hbuff'
        rw [hnext, show buff.length = 3 by omega]
        rfl
  | requestUplink buff =>
      have hbuff := h.requestUplink buff rfl
      have hcounter := h.counter nofun
      refine ⟨?_, fun hne => absurd rfl hne, fun _ => ?_, nofun, nofun⟩
      · show (s.requests ++ [(port, buff)]).map Prod.snd
          = (List.range (s.requests ++ [(port, buff)]).length).map _
        rw [List.length_append, List.length_singleton, List.range_succ,
          List.map_append, List.map_append, ← h.numbered, hbuff, hcounter]
        rfl
      · show s.uplinkCounter + 1
          = BitVec.ofNat 32 (s.requests ++ [(port, buff)]).length
        rw [List.length_append, BitVec.ofNat_add, hcounter]
        rfl
  | increment =>
      exact ⟨h.numbered, fun _ => h.increment rfl, nofun, nofun, nofun⟩

/-! ## Every run -/

/-- Where the sender is: in `main`, or else in the event handler. -/
def sender : Option Stmt → Uplinks → Option Send
  | some (.send x), _ => some x
  | _, s => s.handler

/-- A statement of `main` after the first. -/
def sending : Option Stmt → Bool
  | some (.send _) | some .wakeUp => true
  | _ => false

/-- With `main` at the statement `h`, one of the two sends at most. -/
structure Inv (h : Option Stmt) (s : Uplinks) : Prop where
  main : s.mainSends = sending h
  alone : s.mainSends = true → s.handler = none
  sends : Sends (sender h s) s

theorem Inv.begin {s : Uplinks} (h : Inv none s) : Inv (some .getStatus) s :=
  ⟨h.main, h.alone, h.sends⟩

/-- A statement of `main`, with no event in between. -/
theorem statement_inv {c : Stmt} {s : Uplinks} {o : Outcome Stmt Uplinks}
    (hinv : Inv (some c) s) (hstep : statement c s = some o) :
    Inv o.next o.app := by
  obtain ⟨hnone, hsome⟩ := Option.ite_none_right_eq_some.mp hstep
  cases hsome
  have hsends := hinv.sends
  cases c with
  | getStatus =>
      have hsends : Sends none s := hnone ▸ hsends
      rw [onPress]
      cases hjoined : s.joined with
      | false =>
          refine ⟨rfl, nofun, ?_⟩
          show Sends s.handler _
          rw [hnone]
          exact hsends.congr rfl rfl
      | true => exact ⟨rfl, fun _ => hnone, hsends.begin.congr rfl rfl⟩
  | send x =>
      obtain ⟨hhandler, hmain⟩ := send_frame 102 s x
      have hnext := send_sends 102 hsends
      rw [onPress]
      refine ⟨?_, fun _ => hhandler.trans hnone, ?_⟩
      · rw [hmain, hinv.main]
        cases (sendUplinkCounterOnPort 102 s x).2 <;> rfl
      · dsimp only
        cases hx : (sendUplinkCounterOnPort 102 s x).2 with
        | none =>
            rw [hx] at hnext
            show Sends (sendUplinkCounterOnPort 102 s x).1.handler _
            rw [hhandler, hnone]
            exact hnext
        | some y =>
            rw [hx] at hnext
            exact hnext
  | wakeUp => exact ⟨rfl, nofun, hsends.congr rfl rfl⟩

/-- What comes beside `main`, unless it interrupts it. -/
theorem other_inv {b : Build} {inEngines : Bool} {e : Event} {s t : Uplinks}
    {h : Option Stmt} (hb : b ≠ .preemptive) (hmain : inEngines = true → h = none)
    (hinv : Inv h s) (hstep : other b inEngines e s = some t) : Inv h t := by
  -- `sender` looks at the handler only while `main` does not send
  have hsender : ∀ s : Uplinks, s.mainSends = false → s.mainSends = sending h →
      sender h s = s.handler := by
    intro s hnot hflag
    rw [hnot] at hflag
    cases h with
    | none => rfl
    | some c => cases c <;> first | rfl | cases hflag
  cases e with
  | joined joined =>
      cases hstep
      refine ⟨hinv.main, hinv.alone, ?_⟩
      have hsame : sender h { s with joined := joined } = sender h s := by
        cases h with
        | none => rfl
        | some c => cases c <;> rfl
      rw [hsame]
      exact hinv.sends.congr rfl rfl
  | helperEvent =>
      obtain ⟨⟨hruns, hnone⟩, hsome⟩ := Option.ite_none_right_eq_some.mp hstep
      cases hsome
      have hnot : s.mainSends = false := by
        cases b with
        | oneThread =>
            obtain rfl := hmain hruns
            exact hinv.main
        | cooperative => simpa [Build.runsEngines] using hruns
        | preemptive => exact absurd rfl hb
      have hsends : Sends none s := by
        rw [← hnone, ← hsender s hnot hinv.main]
        exact hinv.sends
      refine ⟨hinv.main, fun hc => ?_, ?_⟩
      · exact absurd (hnot.symm.trans hc) nofun
      · rw [hsender { s with handler := some (.read []) } hnot hinv.main]
        exact hsends.begin.congr rfl rfl
  | handler =>
      obtain ⟨x, hx, rfl⟩ := Option.map_eq_some_iff.mp hstep
      have hnot : s.mainSends = false := by
        cases hsending : s.mainSends with
        | false => rfl
        | true => exact absurd (hx.symm.trans (hinv.alone hsending)) nofun
      have hsends : Sends (some x) s := by
        rw [← hx, ← hsender s hnot hinv.main]
        exact hinv.sends
      have hframe := (send_frame 101 s x).2
      refine ⟨hframe.trans hinv.main, fun hc => ?_, ?_⟩
      · exact absurd (hnot.symm.trans (hframe.symm.trans hc)) nofun
      · dsimp only
        rw [hsender { (sendUplinkCounterOnPort 101 s x).1 with
            handler := (sendUplinkCounterOnPort 101 s x).2 }
          (hframe.trans hnot) (hframe.trans hinv.main)]
        exact (send_sends 101 hsends).congr rfl rfl

/-- One step of the whole. -/
theorem step_inv {b : Build} (hb : b ≠ .preemptive) {s t : State Stmt Uplinks}
    {e : ButtonLoop.Event Event} (hinv : Inv s.pc.handler s.app)
    (hstep : step (app b) s e = some t) : Inv t.pc.handler t.app := by
  cases step_effect hstep with
  | loop happ hhandler hengines =>
      rw [happ]
      rcases hhandler with hsame | ⟨hnone, hbegin⟩
      · rw [hsame]
        exact hinv
      · rw [hbegin]
        exact (hnone ▸ hinv).begin
  | @statement c o hpc houtcome happ hnext =>
      rw [hpc] at hinv
      rw [happ, hnext, next_handler]
      exact statement_inv hinv houtcome
  | other happ hpc =>
      rw [hpc]
      exact other_inv hb Pc.handler_of_inEngines hinv happ

/-- Between the request and the increment of `main`, the event handler sends the
    same number. -/
def repeated : List (ButtonLoop.Event Event) :=
  [.other (.joined true), .button 1000 1000] ++ List.replicate 8 (.main false)
    ++ [.other .helperEvent] ++ List.replicate 5 (.other .handler)

theorem repeated_run :
    ∃ s, run (step (app .preemptive)) (initial start) repeated = some s
      ∧ ¬ Numbered s.app :=
  ⟨_, rfl, by decide⟩

/-- **THE UPLINKS ARE NUMBERED** from 0 on, without a gap or a repetition, in every
    run with one thread and in every run with two that do not interrupt each other;
    a run of the preemptive build repeats a number. -/
theorem uplinks_numbered_iff (b : Build) :
    (∀ es s, run (step (app b)) (initial start) es = some s → Numbered s.app)
      ↔ b ≠ .preemptive := by
  constructor
  · rintro h rfl
    obtain ⟨s, hs, hne⟩ := repeated_run
    exact hne (h repeated s hs)
  · intro hb es s hrun
    have hstart : Inv (initial start : State Stmt Uplinks).pc.handler start :=
      ⟨rfl, nofun, ⟨rfl, fun _ => rfl, nofun, nofun, nofun⟩⟩
    have hinv : Inv s.pc.handler s.app :=
      run_invariant (fun s : State Stmt Uplinks => Inv s.pc.handler s.app)
        (fun _ => True) (fun _ _ _ _ h hstep => step_inv hb h hstep)
        (s := initial start) (fun _ _ => trivial) hstart hrun
    exact hinv.sends.numbered

end PeriodicalUplink
