import UspZephyr.StepRunProofs
import Mathlib.Logic.Function.Basic

/-! # Threads that wait on semaphores

    `wait_on_sems` polls an array of semaphores in notify-only mode and then
    takes the first that was marked, without looking at what `k_sem_take` says.
    Between the poll and the take another thread can empty the semaphore.

    Any number of threads call it, and others give and take.  A record of each
    call says what it returned and which semaphores it decremented.
    `consumesReported_iff` is about every run. -/

namespace WaitOnSems

open StepRun

variable {Tid σ : Type}

/-! ## The call -/

/-- A `struct k_poll_event` of type `K_POLL_TYPE_SEM_AVAILABLE`: the semaphore,
    and whether the state is `K_POLL_STATE_SEM_AVAILABLE`. -/
structure PollEvent (σ : Type) where
  sem : σ
  available : Bool

/-- `k_poll_event_init`. -/
def kPollEventInit (sem : σ) : PollEvent σ := ⟨sem, false⟩

/-- The loop over the events behind the poll: the first that is marked. -/
def firstAvailable : List (PollEvent σ) → Option (Nat × σ)
  | [] => none
  | event :: events =>
      if event.available then some (0, event.sem)
      else (firstAvailable events).map fun found => (found.1 + 1, found.2)

/-- `k_sem_take` with `K_NO_WAIT`: the semaphores it decremented, and the counts
    behind it. -/
def kSemTake [DecidableEq σ] (count : σ → Nat) (sem : σ) :
    List σ × (σ → Nat) :=
  if 0 < count sem then ([sem], Function.update count sem (count sem - 1))
  else ([], count)

/-- A call that returned: its array, its result, and what it decremented. -/
structure Record (σ : Type) where
  sems : List σ
  ret : Int
  taken : List σ

/-- The end of `wait_on_sems` behind a successful `k_poll`.  The cast of the
    index to `int` is exact: the events of a longer array fit no stack. -/
def waitOnSemsEnd [DecidableEq σ] (count : σ → Nat)
    (events : List (PollEvent σ)) : Record σ × (σ → Nat) :=
  match firstAvailable events with
  | some (i, sem) =>
      (⟨events.map (·.sem), i, (kSemTake count sem).1⟩, (kSemTake count sem).2)
  | none => (⟨events.map (·.sem), -3, []⟩, count)

/-! ## The threads -/

/-- Where a thread is. -/
inductive Pc (σ : Type) where
  | elsewhere
  | inPoll (events : List (PollEvent σ))
  | polled (events : List (PollEvent σ))

/-- The thread may start a call. -/
def Pc.outside : Pc σ → Option Unit
  | .elsewhere => some ()
  | _ => none

/-- The events of a thread inside `k_poll`. -/
def Pc.pollEvents : Pc σ → Option (List (PollEvent σ))
  | .inPoll events => some events
  | _ => none

/-- The events of a thread behind a successful `k_poll`. -/
def Pc.polledEvents : Pc σ → Option (List (PollEvent σ))
  | .polled events => some events
  | _ => none

/-- The semaphores, the threads, and what has happened so far: the calls that
    returned, the tokens there were and were given, and what others took. -/
structure State (Tid σ : Type) where
  count : σ → Nat
  pc : Tid → Pc σ
  records : List (Record σ)
  given : σ → Nat
  othersTook : σ → Nat

def initialState (count : σ → Nat) : State Tid σ :=
  ⟨count, fun _ => .elsewhere, [], count, fun _ => 0⟩

/-- What may happen next.  `call` has no array if `sems` is NULL; `notice` is
    `k_poll` finding the semaphore of a slot available. -/
inductive Event (Tid σ : Type) where
  | call (tid : Tid) (sems : Option (List σ))
  | notice (tid : Tid) (slot : Nat)
  | pollReturns (tid : Tid)
  | pollFails (tid : Tid)
  | finish (tid : Tid)
  | give (sem : σ)
  | othersTake (sem : σ)

variable [DecidableEq Tid] [DecidableEq σ]

/-- A thread goes on somewhere else. -/
def State.goto (st : State Tid σ) (tid : Tid) (pc : Pc σ) : State Tid σ :=
  { st with pc := Function.update st.pc tid pc }

/-- A call returns. -/
def State.ret (st : State Tid σ) (tid : Tid) (r : Record σ)
    (count : σ → Nat) : State Tid σ :=
  { st.goto tid .elsewhere with count := count, records := r :: st.records }

/-- The beginning of `wait_on_sems`. -/
def State.call (st : State Tid σ) (tid : Tid) : Option (List σ) → State Tid σ
  | none => st.ret tid ⟨[], -1, []⟩ st.count
  | some [] => st.ret tid ⟨[], -1, []⟩ st.count
  | some (sem :: sems) =>
      st.goto tid (.inPoll ((sem :: sems).map kPollEventInit))

/-- One step of `wait_on_sems`, or of another thread.  `limit` is the limit of
    each semaphore, at which a give is without effect. -/
def step (limit : σ → Nat) (st : State Tid σ) :
    Event Tid σ → Option (State Tid σ)
  | .call tid sems => (st.pc tid).outside.map fun _ => st.call tid sems
  | .notice tid slot => do
      let events ← (st.pc tid).pollEvents
      let event ← events[slot]?
      if 0 < st.count event.sem then
        some (st.goto tid
          (.inPoll (events.set slot { event with available := true })))
      else none
  | .pollReturns tid => do
      let events ← (st.pc tid).pollEvents
      if events.any (·.available) then some (st.goto tid (.polled events))
      else none
  | .pollFails tid =>
      (st.pc tid).pollEvents.map fun events =>
        st.ret tid ⟨events.map (·.sem), -2, []⟩ st.count
  | .finish tid =>
      (st.pc tid).polledEvents.map fun events =>
        st.ret tid (waitOnSemsEnd st.count events).1
          (waitOnSemsEnd st.count events).2
  | .give sem =>
      some { st with
        count := Function.update st.count sem
          (if st.count sem = limit sem then st.count sem else st.count sem + 1)
        given := Function.update st.given sem (st.given sem + 1) }
  | .othersTake sem =>
      if 0 < st.count sem then
        some { st with
          count := Function.update st.count sem (st.count sem - 1)
          othersTook := Function.update st.othersTook sem
            (st.othersTook sem + 1) }
      else none

/-! ## What is asked of it -/

/-- A call decremented the semaphore it reports once and no other, or none if
    it reports none. -/
structure Record.Honest (r : Record σ) : Prop where
  reported : 0 ≤ r.ret → ∃ sem, r.sems[r.ret.toNat]? = some sem ∧ r.taken = [sem]
  failed : r.ret < 0 → r.taken = []

/-- The call reports a semaphore. -/
def Record.reports (r : Record σ) (sem : σ) : Bool :=
  decide (0 ≤ r.ret) && r.sems[r.ret.toNat]? == some sem

/-- Every call so far is honest, and no more tokens were reported or taken than
    there were. -/
structure ConsumesReported (st : State Tid σ) : Prop where
  honest : ∀ r ∈ st.records, r.Honest
  bounded : ∀ sem, st.records.countP (·.reports sem) + st.othersTook sem
    ≤ st.given sem

/-- The take of a call finds a token: the first marked semaphore is still
    available. -/
def TakesToken (st : State Tid σ) : Event Tid σ → Prop
  | .finish tid => ∀ events i sem, (st.pc tid).polledEvents = some events →
      firstAvailable events = some (i, sem) → 0 < st.count sem
  | _ => True

/-! ## The end of a call -/

omit [DecidableEq σ] in
/-- The event found is one of the array. -/
theorem firstAvailable_sem {events : List (PollEvent σ)} {i : Nat} {sem : σ}
    (h : firstAvailable events = some (i, sem)) :
    (events.map (·.sem))[i]? = some sem := by
  induction events generalizing i with
  | nil => cases h
  | cons event events ih =>
      rw [firstAvailable] at h
      by_cases hav : event.available
      · rw [if_pos hav] at h
        cases h
        rfl
      · rw [if_neg hav] at h
        obtain ⟨⟨j, found⟩, hfound, hij⟩ := Option.map_eq_some_iff.mp h
        cases hij
        exact ih hfound

/-- The result is honest exactly if the token noticed was still there. -/
theorem waitOnSemsEnd_honest_iff (count : σ → Nat) (events : List (PollEvent σ)) :
    (waitOnSemsEnd count events).1.Honest
      ↔ ∀ i sem, firstAvailable events = some (i, sem) → 0 < count sem := by
  rw [waitOnSemsEnd]
  cases hfound : firstAvailable events with
  | none =>
      refine ⟨fun _ => nofun, fun _ => ⟨?_, fun _ => rfl⟩⟩
      intro hret
      exact absurd hret (show ¬ (0 : Int) ≤ -3 by decide)
  | some found =>
      obtain ⟨i, sem⟩ := found
      dsimp only
      constructor
      · rintro ⟨hreported, -⟩ j sem' hsome
        cases hsome
        obtain ⟨sem', -, htaken⟩ := hreported (Int.natCast_nonneg i)
        refine Decidable.byContradiction ?_
        intro hempty
        rw [kSemTake, if_neg hempty] at htaken
        cases htaken
      · intro hcount
        have htake : (kSemTake count sem).1 = [sem] := by
          rw [kSemTake, if_pos (hcount i sem rfl)]
        refine ⟨fun _ => ⟨sem, firstAvailable_sem hfound, htake⟩, ?_⟩
        intro hret
        exact absurd (Int.natCast_nonneg i) (Int.not_le.mpr hret)

theorem kSemTake_counted (count : σ → Nat) (sem x : σ) :
    (kSemTake count sem).2 x + (kSemTake count sem).1.count x = count x := by
  rw [kSemTake]
  by_cases hcount : 0 < count sem
  · rw [if_pos hcount]
    by_cases hx : x = sem
    · subst hx
      show Function.update count x _ x + List.count x [x] = count x
      rw [Function.update_self, List.count_singleton_self]
      omega
    · show Function.update count sem _ x + List.count x [sem] = count x
      rw [Function.update_of_ne hx, List.count_singleton,
        if_neg (by simpa using Ne.symm hx), Nat.add_zero]
  · rw [if_neg hcount]
    rfl

/-- What a call decremented is what the counts lost. -/
theorem waitOnSemsEnd_counted (count : σ → Nat) (events : List (PollEvent σ))
    (x : σ) : (waitOnSemsEnd count events).2 x
      + (waitOnSemsEnd count events).1.taken.count x = count x := by
  rw [waitOnSemsEnd]
  cases firstAvailable events with
  | none => rfl
  | some found => exact kSemTake_counted count found.2 x

/-! ## One step -/

/-- What the calls that returned decremented of a semaphore. -/
def takenOf : List (Record σ) → σ → Nat
  | [], _ => 0
  | r :: records, sem => r.taken.count sem + takenOf records sem

/-- The tokens are where they belong: in the semaphore, with a call that
    decremented it, or with another thread. -/
def Counted (st : State Tid σ) : Prop :=
  ∀ sem, st.count sem + takenOf st.records sem + st.othersTook sem
    ≤ st.given sem

/-- What a step can do: a thread goes on inside a call; a call returns that
    took nothing; a call ends behind its poll; or another thread gives or
    takes. -/
inductive Effect (st : State Tid σ) : State Tid σ → Prop → Prop where
  | inside (tid : Tid) (pc : Pc σ) : Effect st (st.goto tid pc) True
  | fails (tid : Tid) (sems : List σ) {ret : Int} (hret : ret < 0) :
      Effect st (st.ret tid ⟨sems, ret, []⟩ st.count) True
  | ends {tid : Tid} {events : List (PollEvent σ)} {ok : Prop}
      (hok : ok ↔ ∀ i sem, firstAvailable events = some (i, sem) →
        0 < st.count sem) :
      Effect st (st.ret tid (waitOnSemsEnd st.count events).1
        (waitOnSemsEnd st.count events).2) ok
  | others {count given othersTook : σ → Nat}
      (hcount : ∀ sem, count sem + othersTook sem + st.given sem
        ≤ st.count sem + st.othersTook sem + given sem) :
      Effect st { st with count, given, othersTook } True

/-- The effect of each step, with the condition it is under. -/
theorem step_effect {limit : σ → Nat} {st st' : State Tid σ} {e : Event Tid σ}
    (h : step limit st e = some st') : Effect st st' (TakesToken st e) := by
  cases e with
  | call tid sems =>
      obtain ⟨-, -, rfl⟩ := Option.map_eq_some_iff.mp h
      match sems with
      | none => exact .fails tid [] (by decide)
      | some [] => exact .fails tid [] (by decide)
      | some (sem :: sems) => exact .inside tid _
  | notice tid slot =>
      obtain ⟨events, -, h⟩ := Option.bind_eq_some_iff.mp h
      obtain ⟨event, -, h⟩ := Option.bind_eq_some_iff.mp h
      obtain ⟨-, h⟩ := Option.ite_none_right_eq_some.mp h
      cases h
      exact .inside tid _
  | pollReturns tid =>
      obtain ⟨events, -, h⟩ := Option.bind_eq_some_iff.mp h
      obtain ⟨-, h⟩ := Option.ite_none_right_eq_some.mp h
      cases h
      exact .inside tid _
  | pollFails tid =>
      obtain ⟨events, -, rfl⟩ := Option.map_eq_some_iff.mp h
      exact .fails tid _ (by decide)
  | finish tid =>
      obtain ⟨events, hpc, rfl⟩ := Option.map_eq_some_iff.mp h
      refine .ends ⟨fun hok i sem => hok events i sem hpc, ?_⟩
      intro hok events' i sem hpc'
      cases hpc.symm.trans hpc'
      exact hok i sem
  | give sem =>
      cases h
      refine .others ?_
      intro x
      by_cases hx : x = sem
      · subst hx
        rw [Function.update_self, Function.update_self]
        split
        · omega
        · omega
      · refine Nat.le_of_eq ?_
        rw [Function.update_of_ne hx, Function.update_of_ne hx]
  | othersTake sem =>
      obtain ⟨hcount, h⟩ := Option.ite_none_right_eq_some.mp h
      cases h
      refine .others ?_
      intro x
      by_cases hx : x = sem
      · subst hx
        rw [Function.update_self, Function.update_self]
        omega
      · refine Nat.le_of_eq ?_
        rw [Function.update_of_ne hx, Function.update_of_ne hx]

/-- No token is counted twice, whatever happens. -/
theorem Effect.counted {st st' : State Tid σ} {ok : Prop}
    (h : Effect st st' ok) (hst : Counted st) : Counted st' := by
  intro x
  have hx := hst x
  cases h with
  | inside tid pc => exact hx
  | fails tid sems hret =>
      show st.count x + (0 + takenOf st.records x) + st.othersTook x ≤ _
      rw [Nat.zero_add]
      exact hx
  | ends hok =>
      rename_i events
      show (waitOnSemsEnd st.count events).2 x
        + ((waitOnSemsEnd st.count events).1.taken.count x
          + takenOf st.records x) + st.othersTook x ≤ st.given x
      have := waitOnSemsEnd_counted st.count events x
      omega
  | others hcount =>
      have := hcount x
      show _ + takenOf st.records x + _ ≤ _
      dsimp only
      omega

/-- All calls so far are honest. -/
def HonestSoFar (st : State Tid σ) : Prop := ∀ r ∈ st.records, r.Honest

/-- A step keeps all calls honest exactly if its take finds a token. -/
theorem Effect.honest_iff {st st' : State Tid σ} {ok : Prop}
    (h : Effect st st' ok) (hst : HonestSoFar st) : HonestSoFar st' ↔ ok := by
  have hcons : ∀ {tid : Tid} {r : Record σ} {count : σ → Nat},
      HonestSoFar (st.ret tid r count) ↔ r.Honest := by
    intro tid r count
    constructor
    · intro h
      exact h r List.mem_cons_self
    · intro hr r' hr'
      rcases List.mem_cons.mp hr' with rfl | hr'
      · exact hr
      · exact hst r' hr'
  cases h with
  | inside tid pc => exact ⟨fun _ => trivial, fun _ => hst⟩
  | fails tid sems hret =>
      refine hcons.trans ⟨fun _ => trivial, fun _ => ⟨?_, fun _ => rfl⟩⟩
      intro hpos
      exact absurd hret (Int.not_lt.mpr hpos)
  | ends hok =>
      exact hcons.trans ((waitOnSemsEnd_honest_iff _ _).trans hok.symm)
  | others hcount => exact ⟨fun _ => trivial, fun _ => hst⟩

/-! ## Runs -/

/-- An honest call decremented what it reports. -/
theorem Record.Honest.reports_le {r : Record σ} (h : r.Honest) (sem : σ)
    (hr : r.reports sem = true) : 1 ≤ r.taken.count sem := by
  rw [Record.reports, Bool.and_eq_true, decide_eq_true_eq, beq_iff_eq] at hr
  obtain ⟨hpos, hsem⟩ := hr
  obtain ⟨sem', hsem', htaken⟩ := h.reported hpos
  cases hsem.symm.trans hsem'
  refine Nat.le_of_eq ?_
  rw [htaken, List.count_singleton_self]

/-- Honest calls report no more than they decremented. -/
theorem countP_reports_le {records : List (Record σ)}
    (h : ∀ r ∈ records, r.Honest) (sem : σ) :
    records.countP (·.reports sem) ≤ takenOf records sem := by
  induction records with
  | nil => exact Nat.le_refl 0
  | cons r records ih =>
      have htail := ih fun r' hr' => h r' (List.mem_cons_of_mem r hr')
      show _ ≤ r.taken.count sem + takenOf records sem
      by_cases hr : r.reports sem = true
      · have := (h r List.mem_cons_self).reports_le sem hr
        rw [List.countP_cons_of_pos (p := fun r : Record σ => r.reports sem) hr]
        omega
      · rw [List.countP_cons_of_neg (p := fun r : Record σ => r.reports sem) hr]
        omega

omit [DecidableEq Tid] in
/-- What is asked follows from the accounts and the honesty of each call. -/
theorem consumesReported_of_honest {st : State Tid σ} (hst : HonestSoFar st)
    (hcounted : Counted st) : ConsumesReported st := by
  refine ⟨hst, ?_⟩
  intro sem
  have := countP_reports_le hst sem
  have := hcounted sem
  omega

omit [DecidableEq Tid] in
theorem counted_initial (count : σ → Nat) :
    Counted (initialState count : State Tid σ) := by
  intro sem
  exact Nat.le_refl _

/-- What is asked, in every state of a run. -/
def ConsumesThroughout (limit count : σ → Nat) (es : List (Event Tid σ)) : Prop :=
  ∀ es₁ u, es₁ <+: es → run (step limit) (initialState count) es₁ = some u →
    ConsumesReported u

/-- **TOKENS ARE REPORTED ONCE EXACTLY IF THEY ARE STILL THERE**: in every state
    of a run each call consumed the token it reports, exactly if every call's
    take found the semaphore it had noticed still available. -/
theorem consumesReported_iff (limit count : σ → Nat) (es : List (Event Tid σ))
    (st : State Tid σ)
    (hrun : run (step limit) (initialState count) es = some st) :
    ConsumesThroughout limit count es
      ↔ Meets (step limit) TakesToken (initialState count) es := by
  have hstep : ∀ (s : State Tid σ) (e : Event Tid σ) (t : State Tid σ),
      HonestSoFar s ∧ Counted s → step limit s e = some t →
      (HonestSoFar t ∧ Counted t ↔ TakesToken s e) := by
    intro s e t hs he
    have heffect := step_effect he
    constructor
    · rintro ⟨hhonest, -⟩
      exact (heffect.honest_iff hs.1).mp hhonest
    · intro hok
      exact ⟨(heffect.honest_iff hs.1).mpr hok, heffect.counted hs.2⟩
  have hiff := invariant_iff_meets (fun u => HonestSoFar u ∧ Counted u) hstep
    ⟨fun _ hr => absurd hr List.not_mem_nil, counted_initial count⟩ hrun
  refine Iff.trans ?_ hiff
  constructor
  · intro h es₁ u hes₁ hu
    refine ⟨(h es₁ u hes₁ hu).honest, ?_⟩
    exact run_invariant Counted (fun _ => True)
      (fun _ _ _ _ hs he => (step_effect he).counted hs) (fun _ _ => trivial)
      (counted_initial count) hu
  · intro h es₁ u hes₁ hu
    exact consumesReported_of_honest (h es₁ u hes₁ hu).1 (h es₁ u hes₁ hu).2

/-- One thread that waits for one token. -/
def oneWaiter : List (Event Unit Unit) :=
  [.call () (some [()]), .give (), .notice () 0, .pollReturns (), .finish ()]

theorem consumesReported_oneWaiter :
    ConsumesThroughout (fun _ => 1) (fun _ => 0) oneWaiter := by
  refine (consumesReported_iff (fun _ => 1) (fun _ => 0) oneWaiter _ rfl).mpr ?_
  refine .cons rfl trivial (.cons rfl trivial (.cons rfl trivial
    (.cons rfl trivial (.cons rfl ?_ trivial))))
  intro _ _ _ _ _
  exact Nat.one_pos

/-- Two threads that notice the same token. -/
def twoWaiters : List (Event Bool Unit) :=
  [.call false (some [()]), .call true (some [()]), .notice false 0,
    .notice true 0, .pollReturns false, .pollReturns true, .finish false,
    .finish true]

/-- **ONE TOKEN REPORTED TWICE**: both calls return the semaphore, and only the
    first decremented it. -/
theorem one_token_reported_twice :
    (∃ st, run (step fun _ => 1) (initialState fun _ => 1) twoWaiters = some st
        ∧ st.records = [⟨[()], 0, []⟩, ⟨[()], 0, [()]⟩])
      ∧ ¬ ConsumesThroughout (fun _ => 1) (fun _ => 1) twoWaiters := by
  refine ⟨⟨_, rfl, rfl⟩, ?_⟩
  intro h
  have hend := h twoWaiters _ (List.prefix_refl _) rfl
  have hbounded := hend.bounded ()
  exact absurd hbounded (by decide)

end WaitOnSems
