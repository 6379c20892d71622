import UspZephyr.ButtonLoopProofs

/-! # The almanac service of the geolocation sample

    `ads_state` has two writers: `main`, which starts or stops the almanac
    demodulation on a press of the button, and `modem_event_callback`, which starts
    it after the first scan with a time.  The sample has no build with the USP
    thread, so the callback runs in `main`, inside the engines.

    `almanac_calls_alternate` is about the calls of both in every run. -/

namespace Geolocation

open ButtonLoop StepRun

/-! ## The program -/

/-- `ads_state_t`. -/
inductive AdsState where
  | init
  | started
  | stopped
  deriving DecidableEq, Repr

/-- `smtc_modem_almanac_demodulation_start` and `_stop`. -/
inductive AlmanacCall where
  | start
  | stop
  deriving DecidableEq, Repr

/-- The state that is set before a call. -/
def AlmanacCall.adsState : AlmanacCall → AdsState
  | .start => .started
  | .stop => .stopped

/-- A call that was made, and by whom. -/
structure Made where
  call : AlmanacCall
  byCallback : Bool
  deriving DecidableEq, Repr

/-- The statements of `main` on a press. -/
inductive Stmt where
  | testAdsState
  | setAdsState (c : AlmanacCall)
  | call (c : AlmanacCall)
  deriving DecidableEq, Repr

/-- Where `modem_event_callback` is, when a scan has come with a time. -/
inductive CallbackPc where
  | outside
  | setAdsState
  | start
  deriving DecidableEq, Repr

structure Service where
  callback : CallbackPc
  adsState : AdsState
  /-- The calls so far, the last one first. -/
  calls : List Made
  deriving DecidableEq, Repr

def statement : Stmt → Service → Option (Outcome Stmt Service)
  | .testAdsState, s =>
      let c := if s.adsState = .started then AlmanacCall.stop else .start
      some ⟨s, false, some (.setAdsState c)⟩
  | .setAdsState c, s =>
      some ⟨{ s with adsState := c.adsState }, false, some (.call c)⟩
  | .call c, s => some ⟨{ s with calls := ⟨c, false⟩ :: s.calls }, false, none⟩

/-- The test of the callback for `SMTC_MODEM_EVENT_GNSS_SCAN_DONE`. -/
def gnssScanDone (timeAvailable : Bool) (s : Service) : Service :=
  { s with
    callback :=
      if timeAvailable = true ∧ s.adsState = .init then .setAdsState
      else .outside }

/-- The statements of the callback after it. -/
def callbackStatement (s : Service) : Option Service :=
  match s.callback with
  | .outside => none
  | .setAdsState => some { s with adsState := .started, callback := .start }
  | .start =>
      some { s with calls := ⟨.start, true⟩ :: s.calls, callback := .outside }

inductive Event where
  | gnssScanDone (timeAvailable : Bool)
  | callback

def other (inEngines : Bool) : Event → Service → Option Service
  | .gnssScanDone timeAvailable, s =>
      if inEngines = true ∧ s.callback = .outside then
        some (gnssScanDone timeAvailable s)
      else none
  | .callback, s => callbackStatement s

def app : App Stmt Service Event where
  uspMainThread := false
  onPress := .testAdsState
  statement := statement
  quiet := fun s => decide (s.callback = .outside)
  other := other

def boot : Service := ⟨.outside, .init, []⟩

/-! ## The calls -/

/-- The call that comes after those. -/
def nextCall : List Made → AlmanacCall
  | ⟨.start, _⟩ :: _ => .stop
  | _ => .start

/-- Each call is the one that comes after those before, and the callback makes the
    first at most. -/
def Alternate : List Made → Prop
  | [] => True
  | m :: before =>
      m.call = nextCall before ∧ (m.byCallback = true → before = [])
        ∧ Alternate before

/-- The state that the calls leave the service in. -/
def stateAfter : List Made → AdsState
  | [] => .init
  | m :: _ => m.call.adsState

/-- `main` toggles. -/
theorem nextCall_eq (calls : List Made) :
    (if stateAfter calls = .started then AlmanacCall.stop else .start)
      = nextCall calls := by
  cases calls with
  | nil => rfl
  | cons m before =>
      obtain ⟨call, byCallback⟩ := m
      cases call <;> rfl

/-- Only before the first call is the state the initial one. -/
theorem calls_of_init {calls : List Made} (h : stateAfter calls = .init) :
    calls = [] := by
  cases calls with
  | nil => rfl
  | cons m before =>
      obtain ⟨call, byCallback⟩ := m
      cases call <;> cases h

/-- The state against the calls, with `main` at the statement `h`. -/
structure Tells (h : Option Stmt) (s : Service) : Prop where
  calls : Alternate s.calls
  quiet : (∀ c, h ≠ some (.call c)) → s.callback ≠ .start →
    s.adsState = stateAfter s.calls
  planned : ∀ c, h = some (.setAdsState c) → c = nextCall s.calls
  written : ∀ c, h = some (.call c) →
    s.adsState = c.adsState ∧ c = nextCall s.calls
  setAdsState : s.callback = .setAdsState → s.calls = []
  start : s.callback = .start → s.adsState = .started ∧ s.calls = []

/-- With the callback inside the engines only. -/
structure Inv (s : State Stmt Service) : Prop where
  tells : Tells s.pc.handler s.app
  inside : s.app.callback ≠ .outside → s.pc.inEngines = true

theorem inv_initial : Inv (initial boot) where
  tells := ⟨trivial, fun _ _ => rfl, nofun, nofun, nofun, nofun⟩
  inside := fun h => absurd rfl h

/-! ## What a step keeps -/

variable {h : Option Stmt} {s t : Service}

/-- `main` finds a press. -/
theorem Tells.begin (htells : Tells none s) : Tells (some .testAdsState) s :=
  ⟨htells.calls, fun _ => htells.quiet nofun, nofun, nofun, htells.setAdsState,
    htells.start⟩

/-- The statements of `main`. -/
theorem statement_tells {c : Stmt} {o : Outcome Stmt Service}
    (houtside : s.callback = .outside) (htells : Tells (some c) s)
    (hstep : statement c s = some o) :
    Tells o.next o.app ∧ o.app.callback = .outside := by
  have hstart : s.callback ≠ .start := by
    rw [houtside]
    nofun
  have hset : s.callback ≠ .setAdsState := by
    rw [houtside]
    nofun
  cases c with
  | testAdsState =>
      cases hstep
      have hads := htells.quiet nofun hstart
      refine ⟨⟨htells.calls, fun _ _ => hads, fun c hc => ?_, nofun,
        htells.setAdsState, htells.start⟩, houtside⟩
      rw [hads] at hc
      cases hc
      exact nextCall_eq s.calls
  | setAdsState c =>
      cases hstep
      refine ⟨⟨htells.calls, fun hnot => absurd rfl (hnot c), nofun, fun d hd => ?_,
        htells.setAdsState, fun h => absurd h hstart⟩, houtside⟩
      cases hd
      exact ⟨rfl, htells.planned c rfl⟩
  | call c =>
      cases hstep
      obtain ⟨hads, hnext⟩ := htells.written c rfl
      exact ⟨⟨⟨hnext, nofun, htells.calls⟩, fun _ _ => hads, nofun, nofun,
        fun h => absurd h hset, fun h => absurd h hstart⟩, houtside⟩

/-- A scan has come. -/
theorem gnssScanDone_tells (htells : Tells none s) (houtside : s.callback = .outside)
    (timeAvailable : Bool) : Tells none (gnssScanDone timeAvailable s) := by
  have hads : s.adsState = stateAfter s.calls :=
    htells.quiet nofun (by rw [houtside]; nofun)
  rw [gnssScanDone]
  by_cases htest : timeAvailable = true ∧ s.adsState = .init
  · rw [if_pos htest]
    exact ⟨htells.calls, fun _ _ => hads, nofun, nofun,
      fun _ => calls_of_init (hads.symm.trans htest.2), nofun⟩
  · rw [if_neg htest]
    exact ⟨htells.calls, fun _ _ => hads, nofun, nofun, nofun, nofun⟩

/-- And the rest of the callback. -/
theorem callbackStatement_tells (htells : Tells none s)
    (hstep : callbackStatement s = some t) : Tells none t := by
  rw [callbackStatement] at hstep
  cases hcallback : s.callback with
  | outside =>
      rw [hcallback] at hstep
      cases hstep
  | setAdsState =>
      rw [hcallback] at hstep
      cases hstep
      exact ⟨htells.calls, fun _ hnot => absurd rfl hnot, nofun, nofun, nofun,
        fun _ => ⟨rfl, htells.setAdsState hcallback⟩⟩
  | start =>
      rw [hcallback] at hstep
      cases hstep
      obtain ⟨hads, hcalls⟩ := htells.start hcallback
      refine ⟨⟨?_, fun _ => hcalls, htells.calls⟩, fun _ _ => hads, nofun, nofun,
        nofun, nofun⟩
      rw [hcalls]
      rfl

/-- Beside `main`, only the callback goes on. -/
theorem other_tells {inEngines : Bool} {e : Event} (htells : Tells none s)
    (hstep : other inEngines e s = some t) : Tells none t := by
  cases e with
  | gnssScanDone timeAvailable =>
      obtain ⟨hc, hsome⟩ := Option.ite_none_right_eq_some.mp hstep
      cases hsome
      exact gnssScanDone_tells htells hc.2 timeAvailable
  | callback => exact callbackStatement_tells htells hstep

/-- It does so inside the engines. -/
theorem other_inside {inEngines : Bool} {e : Event}
    (hinside : s.callback ≠ .outside → inEngines = true)
    (hstep : other inEngines e s = some t) : inEngines = true := by
  cases e with
  | gnssScanDone timeAvailable =>
      exact (Option.ite_none_right_eq_some.mp hstep).1.1
  | callback =>
      refine hinside fun houtside => ?_
      have hnone : callbackStatement s = none := by
        rw [callbackStatement, houtside]
      cases hnone.symm.trans hstep

variable {u v : State Stmt Service}

/-- Every step keeps the invariant. -/
theorem step_inv {e : ButtonLoop.Event Event} (hinv : Inv u)
    (hstep : step app u e = some v) : Inv v := by
  cases step_effect hstep with
  | loop happ hhandler hengines =>
      refine ⟨?_, fun hcallback => ?_⟩
      · rw [happ]
        rcases hhandler with hsame | ⟨hnone, hpress⟩
        · rw [hsame]
          exact hinv.tells
        · rw [hpress]
          exact (hnone ▸ hinv.tells).begin
      · rw [happ] at hcallback
        exact hengines (hinv.inside hcallback) (decide_eq_false hcallback)
  | @statement c o hpc houtcome happ hnext =>
      have houtside : u.app.callback = .outside := by
        refine Decidable.byContradiction fun hcallback => ?_
        have hengines := hinv.inside hcallback
        rw [hpc] at hengines
        cases hengines
      have htells := hinv.tells
      rw [hpc] at htells
      obtain ⟨htells', houtside'⟩ := statement_tells houtside htells houtcome
      refine ⟨?_, fun hcallback => ?_⟩
      · rw [hnext, next_handler, happ]
        exact htells'
      · rw [happ] at hcallback
        exact absurd houtside' hcallback
  | other happ hpc =>
      have hengines := other_inside hinv.inside happ
      have hnone := Pc.handler_of_inEngines hengines
      refine ⟨?_, fun _ => ?_⟩
      · rw [hpc, hnone]
        exact other_tells (hnone ▸ hinv.tells) happ
      · rw [hpc]
        exact hengines

theorem run_inv {es : List (ButtonLoop.Event Event)}
    (hrun : run (step app) (initial boot) es = some u) : Inv u :=
  run_invariant Inv (fun _ => True)
    (fun _ _ _ _ hinv hstep => step_inv hinv hstep) (fun _ _ => trivial)
    inv_initial hrun

/-- **START AND STOP ALTERNATE**, beginning with a start, and only the first call can
    be the callback's: what the user has stopped only the user starts again.
    `ads_state` tells the last call, but for a writer between the state and the
    call. -/
theorem almanac_calls_alternate {es : List (ButtonLoop.Event Event)}
    (hrun : run (step app) (initial boot) es = some u) :
    Alternate u.app.calls
      ∧ ((∀ c, u.pc ≠ .onPress (.call c)) → u.app.callback ≠ .start →
        u.app.adsState = stateAfter u.app.calls) := by
  have htells := (run_inv hrun).tells
  refine ⟨htells.calls, fun hpc hcallback => htells.quiet (fun c hc => ?_) hcallback⟩
  cases hp : u.pc <;> rw [hp] at hc <;> cases hc
  exact hpc c hp

/-- A scan with a time, and then a press. -/
private def sampleScanPress : List (ButtonLoop.Event Event) :=
  [.main false, .other (.gnssScanDone true), .other .callback, .other .callback,
    .main false, .main false, .button 600 600, .takeButtonEventSem, .main false,
    .main false, .main false, .main false, .main false]

private def sampleService : State Stmt Service :=
  (run (step app) (initial boot) sampleScanPress).getD (initial boot)

/-- The press stops what the callback has started. -/
theorem almanac_calls_alternate_sample :
    sampleService.app.calls = [⟨.stop, false⟩, ⟨.start, true⟩]
      ∧ sampleService.app.adsState = stateAfter sampleService.app.calls :=
  have hrun : run (step app) (initial boot) sampleScanPress = some sampleService :=
    rfl
  ⟨rfl, (almanac_calls_alternate hrun).2 nofun nofun⟩

end Geolocation
