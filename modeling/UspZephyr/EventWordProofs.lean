import UspZephyr.StepRunProofs
import Mathlib.Data.List.Basic

/-! # Event words and the loop that serves them

    Events of several kinds are posted as bits of one word.  A loop reads the
    word, tests the bits one by one and runs the handler of each that is set,
    and then clears the bits it has read.  Posts happen at any point of this.

    A post **replaces** the word.  So it drops the bits of other kinds that have
    not been read yet, and the clearing wipes a bit that is posted again while
    its handler runs.  `waiting_handled` says that a post that does neither
    (`Spares`) is served by a later start of its handler; `spares_iff` that only
    such a post leaves every event waiting; and `not_waiting_run` that an event
    which is not waiting has to be posted once more. -/

namespace EventWord

open StepRun

/-- The kinds of events: the bit of each and the order in which the loop tests
    them. -/
structure Kinds (K : Type) where
  bit : K → Fin 32
  order : List K
  bit_injective : Function.Injective bit
  order_complete : ∀ k, k ∈ order

/-- What runs around the loop.  An action of its surroundings may be impossible,
    and may end in a post; a handler changes the state. -/
structure Application (K A σ : Type) extends Kinds K where
  act : A → σ → Option (σ × Option K)
  handle : K → σ → σ

/-- `k_event_set`. -/
def kEventSet (events _word : BitVec 32) : BitVec 32 := events

/-- `k_event_clear`. -/
def kEventClear (events word : BitVec 32) : BitVec 32 := word &&& ~~~events

/-- `k_event_test` with all bits asked for. -/
def kEventTest (word : BitVec 32) : BitVec 32 := word

/-- Where the loop is: about to read the word, or with the bits read and the
    kinds still to test. -/
inductive Stage (K : Type) where
  | reading
  | testing (event : BitVec 32) (todo : List K)

namespace Stage

variable {K : Type}

/-- The bits read by the iteration that is going on. -/
def event : Stage K → BitVec 32
  | .reading => 0#32
  | .testing event _ => event

/-- The kinds that it has still to test. -/
def todo : Stage K → List K
  | .reading => []
  | .testing _ todo => todo

end Stage

structure State (K σ : Type) where
  word : BitVec 32
  stage : Stage K
  app : σ

/-- A step of the surroundings, or the next one of the loop. -/
inductive Step (A : Type) where
  | act (a : A)
  | loop
  deriving DecidableEq

section Loop

variable {K A σ : Type} (app : Application K A σ)

/-- The bit of a kind, as the enumeration of the events has it. -/
def Kinds.mask (kinds : Kinds K) (k : K) : BitVec 32 :=
  BitVec.twoPow 32 (kinds.bit k)

/-- `event & KIND`. -/
def Kinds.has (kinds : Kinds K) (event : BitVec 32) (k : K) : Bool :=
  event.getLsbD (kinds.bit k)

/-- The next step of the loop: read, test one kind, or clear. -/
def loopStep (s : State K σ) : State K σ :=
  match s.stage with
  | .reading => { s with stage := .testing (kEventTest s.word) app.order }
  | .testing event (k :: todo) =>
      { s with
        stage := .testing event todo
        app := if app.has event k then app.handle k s.app else s.app }
  | .testing event [] =>
      { s with word := kEventClear event s.word, stage := .reading }

/-- An action of the surroundings, with its post. -/
def actStep (a : A) (s : State K σ) : Option (State K σ) :=
  (app.act a s.app).map fun (app', posted) =>
    { s with
      word := match posted with
        | some k => kEventSet (app.mask k) s.word
        | none => s.word
      app := app' }

def step (s : State K σ) : Step A → Option (State K σ)
  | .act a => actStep app a s
  | .loop => some (loopStep app s)

/-- Before anything was posted. -/
def start (app0 : σ) : State K σ := ⟨0#32, .reading, app0⟩

/-! ## What is waiting, and what is handled -/

/-- The handler of the kind starts with the next step of the loop. -/
def Handles (s : State K σ) (k : K) : Prop :=
  ∃ event todo, s.stage = .testing event (k :: todo) ∧ app.has event k = true

/-- The kind is among the bits read and still to be tested, or in the word and
    not among the bits read. -/
def Waiting (s : State K σ) (k : K) : Prop :=
  (app.has s.stage.event k = true ∧ k ∈ s.stage.todo)
    ∨ (app.has s.word k = true ∧ app.has s.stage.event k = false)

/-- A post of the kind drops no other that is not read yet, and its handler has
    not started in the iteration that is going on. -/
def Spares (s : State K σ) (k : K) : Prop :=
  (∀ j, app.has s.word j = true → app.has s.stage.event j = false → j = k)
    ∧ (app.has s.stage.event k = true → k ∈ s.stage.todo)

/-- The step posts nothing, or its post spares the others. -/
def StepSpares (s : State K σ) (e : Step A) : Prop :=
  ∀ a app' k, e = .act a → app.act a s.app = some (app', some k) → Spares app s k

/-- The handler of the kind starts somewhere in the run. -/
def HandledIn (s : State K σ) (k : K) (es : List (Step A)) : Prop :=
  ∃ es₁ es₂ u, es = es₁ ++ .loop :: es₂ ∧ run (step app) s es₁ = some u
    ∧ Handles app u k

variable {app}

/-- A mask has the bit of its own kind and no other. -/
@[simp] theorem has_mask (kinds : Kinds K) (j k : K) :
    kinds.has (kinds.mask j) k = true ↔ j = k := by
  rw [Kinds.has, Kinds.mask, BitVec.getLsbD_twoPow,
    decide_eq_true (kinds.bit j).isLt, Bool.true_and, decide_eq_true_eq,
    ← Fin.ext_iff]
  exact kinds.bit_injective.eq_iff

@[simp] theorem has_zero (kinds : Kinds K) (k : K) :
    kinds.has 0#32 k = false :=
  BitVec.getLsbD_zero

@[simp] theorem has_kEventClear (kinds : Kinds K) (event word : BitVec 32) (k : K) :
    kinds.has (kEventClear event word) k = true
      ↔ kinds.has word k = true ∧ kinds.has event k = false := by
  rw [Kinds.has, kEventClear, BitVec.getLsbD_and, BitVec.getLsbD_not,
    decide_eq_true (kinds.bit k).isLt, Bool.true_and, Bool.and_eq_true,
    Bool.not_eq_true']
  rfl

/-- What is about to be handled is waiting. -/
theorem Handles.waiting {s : State K σ} {k : K} (h : Handles app s k) :
    Waiting app s k := by
  obtain ⟨event, todo, hstage, hk⟩ := h
  rw [Waiting, hstage]
  exact Or.inl ⟨hk, List.mem_cons_self⟩

/-! ## The steps -/

/-- The three ways a step can go. -/
theorem step_cases {s t : State K σ} {e : Step A} (h : step app s e = some t) :
    (e = .loop ∧ t = loopStep app s)
      ∨ (∃ a app', e = .act a ∧ app.act a s.app = some (app', none)
          ∧ t = { s with app := app' })
      ∨ (∃ a app' k, e = .act a ∧ app.act a s.app = some (app', some k)
          ∧ t = { s with word := app.mask k, app := app' }) := by
  cases e with
  | loop => exact Or.inl ⟨rfl, (Option.some.inj h).symm⟩
  | act a =>
      obtain ⟨⟨app', posted⟩, hact, rfl⟩ := Option.map_eq_some_iff.mp h
      cases posted with
      | none => exact Or.inr (Or.inl ⟨a, app', rfl, hact, rfl⟩)
      | some k => exact Or.inr (Or.inr ⟨a, app', k, rfl, hact, rfl⟩)

/-- The step that posts an event. -/
theorem step_post {s t : State K σ} {a : A} {app' : σ} {k : K}
    (h : step app s (.act a) = some t)
    (hact : app.act a s.app = some (app', some k)) :
    t = { s with word := app.mask k, app := app' } := by
  rcases step_cases h with ⟨hloop, -⟩ | ⟨b, _, hb, hact', -⟩ | ⟨b, _, _, hb, hact', rfl⟩
  · exact nomatch hloop
  · cases hb
    exact nomatch hact.symm.trans hact'
  · cases hb
    cases hact.symm.trans hact'
    rfl

/-- **WHAT A STEP OF THE LOOP DOES TO THE WAITING**: it starts the handler of one
    kind or changes nothing. -/
theorem waiting_loopStep {s : State K σ} {k : K} :
    Waiting app s k ↔ Handles app s k ∨ Waiting app (loopStep app s) k := by
  obtain ⟨word, stage, app'⟩ := s
  constructor
  · rintro (⟨hevent, htodo⟩ | ⟨hword, hevent⟩)
    · -- the kind was read, so it is tested now or later
      cases stage with
      | reading => exact nomatch htodo
      | testing event todo =>
          cases todo with
          | nil => exact nomatch htodo
          | cons j todo =>
              rcases List.mem_cons.mp htodo with rfl | htodo
              · exact Or.inl ⟨event, todo, rfl, hevent⟩
              · exact Or.inr (Or.inl ⟨hevent, htodo⟩)
    · refine Or.inr ?_
      cases stage with
      | reading => exact Or.inl ⟨hword, app.order_complete k⟩
      | testing event todo =>
          cases todo with
          | nil => exact Or.inr ⟨(has_kEventClear ..).mpr ⟨hword, hevent⟩, has_zero ..⟩
          | cons j todo => exact Or.inr ⟨hword, hevent⟩
  · rintro (hhandles | hwaiting)
    · exact hhandles.waiting
    · cases stage with
      | reading =>
          rcases hwaiting with ⟨hevent, -⟩ | ⟨hword, -⟩
          · exact Or.inr ⟨hevent, has_zero ..⟩
          · exact Or.inr ⟨hword, has_zero ..⟩
      | testing event todo =>
          cases todo with
          | nil =>
              rcases hwaiting with ⟨-, htodo⟩ | ⟨hword, -⟩
              · exact nomatch htodo
              · exact Or.inr ((has_kEventClear ..).mp hword)
          | cons j todo =>
              rcases hwaiting with ⟨hevent, htodo⟩ | hword
              · exact Or.inl ⟨hevent, List.mem_cons_of_mem j htodo⟩
              · exact Or.inr hword

/-- What a post leaves waiting. -/
theorem waiting_post {s : State K σ} {app' : σ} {j k : K} :
    Waiting app { s with word := app.mask k, app := app' } j
      ↔ (app.has s.stage.event j = true ∧ j ∈ s.stage.todo)
        ∨ (k = j ∧ app.has s.stage.event j = false) :=
  or_congr Iff.rfl (and_congr (has_mask ..) Iff.rfl)

/-- **WHICH POSTS LOSE NOTHING**: exactly those that spare the others leave
    waiting what was waiting, and wait themselves. -/
theorem spares_iff {s : State K σ} (app' : σ) {k : K} :
    Spares app s k ↔ ∀ j, Waiting app s j ∨ j = k →
      Waiting app { s with word := app.mask k, app := app' } j := by
  constructor
  · rintro ⟨hothers, hstarted⟩ j hj
    rw [waiting_post]
    rcases hj with (hread | ⟨hword, hevent⟩) | rfl
    · exact Or.inl hread
    · exact Or.inr ⟨(hothers j hword hevent).symm, hevent⟩
    · cases hevent : app.has s.stage.event j with
      | true => exact Or.inl ⟨rfl, hstarted hevent⟩
      | false => exact Or.inr ⟨rfl, rfl⟩
  · intro h
    constructor
    · intro j hword hevent
      rcases waiting_post.mp (h j (Or.inl (Or.inr ⟨hword, hevent⟩))) with
        ⟨hread, -⟩ | ⟨rfl, -⟩
      · exact absurd (hread.symm.trans hevent) nofun
      · rfl
    · intro hevent
      rcases waiting_post.mp (h k (Or.inr rfl)) with ⟨-, htodo⟩ | ⟨-, hno⟩
      · exact htodo
      · exact absurd (hevent.symm.trans hno) nofun

/-! ## Progress -/

/-- A step of the loop. -/
def Step.isLoop : Step A → Bool
  | .act _ => false
  | .loop => true

/-- The steps of the loop before it reads the word again. -/
def Stage.toReading : Stage K → Nat
  | .reading => 0
  | .testing _ todo => todo.length + 1

variable (app) in
/-- The handler of the kind starts within `n` steps of the loop: it is among the
    bits read, or will be among those read next. -/
def Soon (s : State K σ) (k : K) (n : Nat) : Prop :=
  (app.has s.stage.event k = true ∧ k ∈ s.stage.todo ∧ s.stage.todo.length ≤ n)
    ∨ (app.has s.word k = true ∧ app.has s.stage.event k = false
        ∧ s.stage.toReading + app.order.length + 1 ≤ n)

/-- What is waiting is handled within two iterations. -/
theorem Waiting.soon {s : State K σ} {k : K} (h : Waiting app s k)
    (htodo : s.stage.todo.length ≤ app.order.length) :
    Soon app s k (2 * app.order.length + 2) := by
  rcases h with ⟨hevent, hmem⟩ | ⟨hword, hevent⟩
  · exact Or.inl ⟨hevent, hmem, by omega⟩
  · have hreading : s.stage.toReading ≤ s.stage.todo.length + 1 := by
      cases s.stage with
      | reading => exact Nat.zero_le _
      | testing event todo => exact Nat.le_refl _
    exact Or.inr ⟨hword, hevent, by omega⟩

/-- A step of the loop brings the handler nearer. -/
theorem Soon.loopStep {s : State K σ} {k : K} {n : Nat}
    (h : Soon app s k (n + 1)) :
    Handles app s k ∨ Soon app (loopStep app s) k n := by
  obtain ⟨word, stage, app'⟩ := s
  rcases h with ⟨hevent, htodo, hn⟩ | ⟨hword, hevent, hn⟩
  · cases stage with
    | reading => exact nomatch htodo
    | testing event todo =>
        cases todo with
        | nil => exact nomatch htodo
        | cons j todo =>
            rcases List.mem_cons.mp htodo with rfl | htodo
            · exact Or.inl ⟨event, todo, rfl, hevent⟩
            · exact Or.inr (Or.inl ⟨hevent, htodo, Nat.le_of_succ_le_succ hn⟩)
  · refine Or.inr ?_
    cases stage with
    | reading =>
        refine Or.inl ⟨hword, app.order_complete k, ?_⟩
        show app.order.length ≤ n
        have : 0 + app.order.length + 1 ≤ n + 1 := hn
        omega
    | testing event todo =>
        cases todo with
        | nil =>
            -- the clearing leaves what the iteration has not read
            refine Or.inr ⟨(has_kEventClear ..).mpr ⟨hword, hevent⟩,
              has_zero .., ?_⟩
            show 0 + app.order.length + 1 ≤ n
            have : 0 + 1 + app.order.length + 1 ≤ n + 1 := hn
            omega
        | cons j todo =>
            refine Or.inr ⟨hword, hevent, ?_⟩
            show todo.length + 1 + app.order.length + 1 ≤ n
            have : todo.length + 1 + 1 + app.order.length + 1 ≤ n + 1 := hn
            omega

/-- There is at least one step to go. -/
theorem Soon.pos {s : State K σ} {k : K} {n : Nat} (h : Soon app s k n) : 0 < n := by
  rcases h with ⟨-, htodo, hn⟩ | ⟨-, -, hn⟩
  · exact Nat.lt_of_lt_of_le (List.length_pos_of_mem htodo) hn
  · omega

/-- A post that spares the others delays none of them. -/
theorem Soon.post {s : State K σ} {app' : σ} {j k : K} {n : Nat}
    (h : Soon app s j n) (hok : Spares app s k) :
    Soon app { s with word := app.mask k, app := app' } j n := by
  rcases h with hread | ⟨hword, hevent, hn⟩
  · exact Or.inl hread
  · exact Or.inr ⟨(has_mask ..).mpr (hok.1 j hword hevent).symm, hevent, hn⟩

/-- **A WAITING EVENT IS HANDLED** in a run whose posts spare the others, once
    the loop has made the steps. -/
theorem Soon.handled {s t : State K σ} {k : K} {n : Nat} {es : List (Step A)}
    (h : Soon app s k n) (hok : Meets (step app) (StepSpares app) s es)
    (hrun : run (step app) s es = some t) (hn : n ≤ es.countP Step.isLoop) :
    HandledIn app s k es := by
  induction es generalizing s n with
  | nil => exact absurd h.pos (Nat.not_lt.mpr hn)
  | cons e es ih =>
      obtain ⟨u, hu, hrun⟩ := run_cons_some hrun
      -- what is handled later in the run is handled in the whole run
      have hlater : HandledIn app u k es → HandledIn app s k (e :: es) := by
        rintro ⟨es₁, es₂, v, rfl, hv, hhandles⟩
        refine ⟨e :: es₁, es₂, v, rfl, ?_, hhandles⟩
        show (step app s e).bind _ = _
        rw [hu]
        exact hv
      rcases step_cases hu with ⟨rfl, rfl⟩ | ⟨a, app', rfl, -, rfl⟩ |
        ⟨a, app', j, rfl, hact, rfl⟩
      · obtain ⟨m, rfl⟩ := Nat.exists_eq_add_of_lt h.pos
        rw [Nat.zero_add] at h hn
        rcases h.loopStep with hhandles | hsoon
        · exact ⟨[], es, s, rfl, rfl, hhandles⟩
        · refine hlater (ih hsoon (hok.2 _ hu) hrun ?_)
          rw [List.countP_cons_of_pos rfl] at hn
          exact Nat.le_of_succ_le_succ hn
      · rw [List.countP_cons_of_neg Bool.false_ne_true] at hn
        exact hlater (ih h (hok.2 _ hu) hrun hn)
      · rw [List.countP_cons_of_neg Bool.false_ne_true] at hn
        exact hlater (ih (h.post (hok.1 a app' j rfl hact)) (hok.2 _ hu) hrun hn)

/-- The loop has at most the kinds to test. -/
theorem todo_length_le {app0 : σ} {s : State K σ} {es : List (Step A)}
    (h : run (step app) (start app0) es = some s) :
    s.stage.todo.length ≤ app.order.length := by
  refine run_invariant (fun s : State K σ => s.stage.todo.length ≤ app.order.length)
    (fun _ => True) ?_ (fun _ _ => trivial) (Nat.zero_le _) h
  intro s e t _ hs he
  rcases step_cases he with ⟨-, rfl⟩ | ⟨a, app', -, -, rfl⟩ | ⟨a, app', j, -, -, rfl⟩
  · obtain ⟨word, stage, app'⟩ := s
    cases stage with
    | reading => exact Nat.le_refl _
    | testing event todo =>
        cases todo with
        | nil => exact Nat.zero_le _
        | cons j todo => exact Nat.le_of_succ_le hs
  · exact hs
  · exact hs

/-! ## Whole runs -/

variable (app) in
/-- Every event posted in the run is handled by a later start of its handler, if
    the loop had the steps of two iterations since. -/
def EveryPostHandled (s0 : State K σ) (es : List (Step A)) : Prop :=
  ∀ before a after s t app' k, es = before ++ .act a :: after →
    run (step app) s0 before = some s → step app s (.act a) = some t →
    app.act a s.app = some (app', some k) →
    2 * app.order.length + 2 ≤ after.countP Step.isLoop →
    HandledIn app t k after

/-- **NO EVENT IS LOST** in a run whose posts spare the others. -/
theorem every_post_handled {app0 : σ} {es : List (Step A)} {u : State K σ}
    (hrun : run (step app) (start app0) es = some u)
    (hok : Meets (step app) (StepSpares app) (start app0) es) :
    EveryPostHandled app (start app0) es := by
  rintro before a after s t app' k rfl hs ht hact hloops
  obtain ⟨s', hs', hrest⟩ := run_append_some hrun
  cases hs.symm.trans hs'
  obtain ⟨t', ht', hafter⟩ := run_cons_some hrest
  cases ht.symm.trans ht'
  obtain ⟨-, hmeets⟩ := (meets_append hs _).mp hok
  have hspares : Spares app s k := hmeets.1 a app' k rfl hact
  have hwaiting : Waiting app t k := by
    rw [step_post ht hact]
    exact (spares_iff app').mp hspares k (Or.inr rfl)
  have hsoon := hwaiting.soon (todo_length_le (run_concat hs ht))
  exact hsoon.handled (hmeets.2 t ht) hafter hloops

variable (app) in
/-- The step posts no event of the kind. -/
def DoesNotPost (k : K) (s : State K σ) (e : Step A) : Prop :=
  ∀ a app', e = .act a → app.act a s.app ≠ some (app', some k)

/-- **A LOST EVENT STAYS LOST**: what is not waiting is not handled before it is
    posted once more. -/
theorem not_waiting_handled {s : State K σ} {k : K} {es : List (Step A)}
    (h : ¬ Waiting app s k) (hno : Meets (step app) (DoesNotPost app k) s es) :
    ¬ HandledIn app s k es := by
  rintro ⟨es₁, es₂, u, rfl, hu, hhandles⟩
  obtain ⟨hno, -⟩ := (meets_append hu _).mp hno
  refine meets_invariant (fun s => ¬ Waiting app s k) ?_ hno h hu hhandles.waiting
  intro s e t hno hs he hwaiting
  rcases step_cases he with ⟨-, rfl⟩ | ⟨a, app', -, -, rfl⟩ | ⟨a, app', j, rfl, hact, rfl⟩
  · exact hs (waiting_loopStep.mpr (Or.inr hwaiting))
  · exact hs hwaiting
  · -- the post is of another kind, and whatever it leaves waiting was read
    rcases waiting_post.mp hwaiting with hread | ⟨rfl, -⟩
    · exact hs (Or.inl hread)
    · exact hno a app' rfl hact

/-- **A POST THAT DOES NOT SPARE THE OTHERS LOSES AN EVENT**: its own or one that
    was waiting. -/
theorem post_loses {s t : State K σ} {a : A} {app' : σ} {k : K}
    (h : ¬ Spares app s k) (ht : step app s (.act a) = some t)
    (hact : app.act a s.app = some (app', some k)) :
    ∃ j, (Waiting app s j ∨ j = k) ∧ ∀ es,
      Meets (step app) (DoesNotPost app j) t es → ¬ HandledIn app t j es := by
  rw [spares_iff app', ← step_post ht hact] at h
  simp only [not_forall] at h
  obtain ⟨j, hj, hlost⟩ := h
  exact ⟨j, hj, fun es hno => not_waiting_handled hlost hno⟩

end Loop

end EventWord
