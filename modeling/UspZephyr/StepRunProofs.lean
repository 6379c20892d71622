/-! # Runs of a machine whose events may be impossible

    A machine is a function `step` that gives the state after an event, or
    `none` when the event cannot happen.  `run` follows a list of events.  Three
    rules carry a fact from one step to a whole run: `run_invariant` for a
    property of states, `run_history` for one of states and the events that led
    there, and `meets_invariant` for runs whose steps all meet a condition. -/

namespace StepRun

variable {σ ε : Type}

/-- A step that depends on a condition goes one of two ways. -/
theorem branch_cases {c : Prop} [Decidable c] {a b t : σ}
    (h : (if c then some a else some b) = some t) :
    (c ∧ a = t) ∨ (¬ c ∧ b = t) := by
  by_cases hc : c
  · rw [if_pos hc] at h
    exact Or.inl ⟨hc, Option.some.inj h⟩
  · rw [if_neg hc] at h
    exact Or.inr ⟨hc, Option.some.inj h⟩

/-- The state after a list of events. -/
def run (step : σ → ε → Option σ) (s : σ) : List ε → Option σ
  | [] => some s
  | e :: es => (step s e).bind fun t => run step t es

private theorem run_cons (step : σ → ε → Option σ) (s : σ) (e : ε)
    (es : List ε) :
    run step s (e :: es) = (step s e).bind fun t => run step t es := rfl

/-- A run in two parts. -/
theorem run_append (step : σ → ε → Option σ) (s : σ) (es fs : List ε) :
    run step s (es ++ fs) = (run step s es).bind fun t => run step t fs := by
  induction es generalizing s with
  | nil => rfl
  | cons e es ih =>
      rw [List.cons_append, run_cons, run_cons]
      cases step s e with
      | none => rfl
      | some t => exact ih t

/-- The first event of a run. -/
theorem run_cons_some {step : σ → ε → Option σ} {s u : σ} {e : ε} {es : List ε}
    (h : run step s (e :: es) = some u) :
    ∃ t, step s e = some t ∧ run step t es = some u :=
  Option.bind_eq_some_iff.mp h

/-- The two parts of a run. -/
theorem run_append_some {step : σ → ε → Option σ} {s u : σ} {es fs : List ε}
    (h : run step s (es ++ fs) = some u) :
    ∃ t, run step s es = some t ∧ run step t fs = some u := by
  rw [run_append] at h
  exact Option.bind_eq_some_iff.mp h

/-- One event more. -/
theorem run_concat {step : σ → ε → Option σ} {s t u : σ} {es : List ε} {e : ε}
    (h : run step s es = some t) (he : step t e = some u) :
    run step s (es ++ [e]) = some u := by
  rw [run_append, h]
  show (step t e).bind some = some u
  rw [he]
  rfl

/-- **INVARIANTS HOLD IN EVERY RUN.**  What every step between allowed events
    preserves holds at the end. -/
theorem run_invariant {step : σ → ε → Option σ} (Inv : σ → Prop)
    (allowed : ε → Prop)
    (hstep : ∀ s e t, allowed e → Inv s → step s e = some t → Inv t)
    {s t : σ} {es : List ε} (hes : ∀ e ∈ es, allowed e) (hs : Inv s)
    (h : run step s es = some t) : Inv t := by
  induction es generalizing s with
  | nil =>
      cases h
      exact hs
  | cons e es ih =>
      obtain ⟨u, hu, ht⟩ := run_cons_some h
      exact ih (fun f hf => hes f (List.mem_cons_of_mem e hf))
        (hstep s e u (hes e List.mem_cons_self) hs hu) ht

/-- What every step keeps unless something happens holds at the end, unless it has
    happened on the way. -/
theorem run_unless {step : σ → ε → Option σ} (P Q : σ → Prop)
    (hstep : ∀ s e t, P s → step s e = some t → P t ∨ Q t) {s t : σ}
    {es : List ε} (hs : P s) (h : run step s es = some t) :
    P t ∨ ∃ es₁ u, es₁ <+: es ∧ run step s es₁ = some u ∧ Q u := by
  induction es generalizing s with
  | nil =>
      cases h
      exact Or.inl hs
  | cons e es ih =>
      obtain ⟨u, hu, ht⟩ := run_cons_some h
      have hcons : ∀ es₁, run step s (e :: es₁) = run step u es₁ := by
        intro es₁
        rw [run_cons, hu]
        rfl
      rcases hstep s e u hs hu with hP | hQ
      · rcases ih hP ht with hP | ⟨es₁, v, hes₁, hv, hQ⟩
        · exact Or.inl hP
        · exact Or.inr ⟨e :: es₁, v, List.cons_prefix_cons.mpr ⟨rfl, hes₁⟩,
            (hcons es₁).trans hv, hQ⟩
      · exact Or.inr ⟨[e], u, List.cons_prefix_cons.mpr ⟨rfl, List.nil_prefix⟩,
          hcons [], hQ⟩

/-- A property of the events so far and the state they led to. -/
theorem run_history {step : σ → ε → Option σ} {s0 : σ} (P : List ε → σ → Prop)
    (hnil : P [] s0)
    (hstep : ∀ es s e t, run step s0 es = some s → P es s →
      step s e = some t → P (es ++ [e]) t)
    {es : List ε} {s : σ} (h : run step s0 es = some s) : P es s := by
  -- induction on the events still to come, for any that came before
  have hsuffix : ∀ (fs pre : List ε) (u : σ), run step s0 pre = some u →
      P pre u → ∀ t, run step u fs = some t → P (pre ++ fs) t := by
    intro fs
    induction fs with
    | nil =>
        intro pre u _ hP t ht
        cases ht
        rwa [List.append_nil]
    | cons f fs ih =>
        intro pre u hpre hP t ht
        obtain ⟨v, hv, hvt⟩ := run_cons_some ht
        have := ih (pre ++ [f]) v (run_concat hpre hv)
          (hstep pre u f v hpre hP hv) t hvt
        rwa [List.append_assoc] at this
  exact hsuffix es [] s0 rfl hnil s h

/-- **TWO MACHINES IN STEP**: a relation that every event keeps, possible in both
    machines or in neither, holds after every run. -/
theorem run_rel {τ : Type} {step : σ → ε → Option σ} {step' : τ → ε → Option τ}
    (R : σ → τ → Prop)
    (hstep : ∀ s t e, R s t → Option.Rel R (step s e) (step' t e)) {s : σ} {t : τ}
    (hs : R s t) (es : List ε) :
    Option.Rel R (run step s es) (run step' t es) := by
  induction es generalizing s t with
  | nil => exact .some hs
  | cons e es ih =>
      have h := hstep s t e hs
      rw [run_cons, run_cons]
      cases ha : step s e with
      | none =>
          cases hb : step' t e with
          | none => exact .none
          | some v =>
              rw [ha, hb] at h
              cases h
      | some u =>
          cases hb : step' t e with
          | none =>
              rw [ha, hb] at h
              cases h
          | some v =>
              rw [ha, hb] at h
              cases h with
              | some huv => exact ih huv

/-- Where every event is possible, so is every run. -/
theorem run_total {step : σ → ε → Option σ} (h : ∀ s e, ∃ t, step s e = some t)
    (s : σ) (es : List ε) : ∃ t, run step s es = some t := by
  induction es generalizing s with
  | nil => exact ⟨s, rfl⟩
  | cons e es ih =>
      obtain ⟨u, hu⟩ := h s e
      rw [run_cons, hu]
      exact ih u

/-- Every step of the run meets a condition on the state before it. -/
def Meets (step : σ → ε → Option σ) (ok : σ → ε → Prop) (s : σ) :
    List ε → Prop
  | [] => True
  | e :: es => ok s e ∧ ∀ t, step s e = some t → Meets step ok t es

/-- A step that happens, and the steps after it. -/
theorem Meets.cons {step : σ → ε → Option σ} {ok : σ → ε → Prop} {s t : σ}
    {e : ε} {es : List ε} (he : step s e = some t) (hok : ok s e)
    (hes : Meets step ok t es) : Meets step ok s (e :: es) := by
  refine ⟨hok, ?_⟩
  intro u hu
  cases he.symm.trans hu
  exact hes

/-- A condition that the events meet in any state. -/
theorem meets_of_forall {step : σ → ε → Option σ} {ok : σ → ε → Prop}
    {es : List ε} (h : ∀ e ∈ es, ∀ s, ok s e) (s : σ) : Meets step ok s es := by
  induction es generalizing s with
  | nil => trivial
  | cons e es ih =>
      refine ⟨h e List.mem_cons_self s, ?_⟩
      intro t _
      exact ih (fun f hf => h f (List.mem_cons_of_mem e hf)) t

/-- Invariants of the runs whose steps all meet a condition. -/
theorem meets_invariant {step : σ → ε → Option σ} {ok : σ → ε → Prop}
    (Inv : σ → Prop)
    (hstep : ∀ s e t, ok s e → Inv s → step s e = some t → Inv t)
    {s t : σ} {es : List ε} (hok : Meets step ok s es) (hs : Inv s)
    (h : run step s es = some t) : Inv t := by
  induction es generalizing s with
  | nil =>
      cases h
      exact hs
  | cons e es ih =>
      obtain ⟨u, hu, ht⟩ := run_cons_some h
      exact ih (hok.2 u hu) (hstep s e u hok.1 hs hu) ht

/-- The condition on a run in two parts. -/
theorem meets_append {step : σ → ε → Option σ} {ok : σ → ε → Prop} {s t : σ}
    {es : List ε} (h : run step s es = some t) (fs : List ε) :
    Meets step ok s (es ++ fs) ↔ Meets step ok s es ∧ Meets step ok t fs := by
  induction es generalizing s with
  | nil =>
      cases h
      constructor
      · intro hok
        exact ⟨trivial, hok⟩
      · intro hok
        exact hok.2
  | cons f es ih =>
      obtain ⟨u, hu, ht⟩ := run_cons_some h
      constructor
      · intro hok
        have hrest := (ih ht).mp (hok.2 u hu)
        exact ⟨.cons hu hok.1 hrest.1, hrest.2⟩
      · rintro ⟨hfirst, hrest⟩
        exact .cons hu hfirst.1 ((ih ht).mpr ⟨hfirst.2 u hu, hrest⟩)

/-- The condition on one step more. -/
theorem meets_concat {step : σ → ε → Option σ} {ok : σ → ε → Prop} {s t : σ}
    {es : List ε} (h : run step s es = some t) (e : ε) :
    Meets step ok s (es ++ [e]) ↔ Meets step ok s es ∧ ok t e := by
  rw [meets_append h]
  refine and_congr_right fun _ => ?_
  constructor
  · intro hok
    exact hok.1
  · intro hok
    exact ⟨hok, fun _ _ => trivial⟩

/-- **A CONDITION THAT DECIDES EACH STEP DECIDES THE RUN**: what a step preserves
    exactly when it meets the condition holds in every state of a run exactly
    when all its steps do. -/
theorem invariant_iff_meets {step : σ → ε → Option σ} {ok : σ → ε → Prop}
    (Inv : σ → Prop)
    (hstep : ∀ s e t, Inv s → step s e = some t → (Inv t ↔ ok s e))
    {s t : σ} {es : List ε} (hs : Inv s) (h : run step s es = some t) :
    (∀ es₁ u, es₁ <+: es → run step s es₁ = some u → Inv u)
      ↔ Meets step ok s es := by
  constructor
  · intro hinv
    induction es generalizing s with
    | nil => trivial
    | cons e es ih =>
        obtain ⟨u, hu, ht⟩ := run_cons_some h
        have hprefix : ∀ es₁ v, es₁ <+: es → run step u es₁ = some v → Inv v := by
          intro es₁ v hes₁ hv
          refine hinv (e :: es₁) v (List.cons_prefix_cons.mpr ⟨rfl, hes₁⟩) ?_
          show (step s e).bind _ = _
          rw [hu]
          exact hv
        have hInv : Inv u := hprefix [] u List.nil_prefix rfl
        exact .cons hu ((hstep s e u hs hu).mp hInv) (ih hInv ht hprefix)
  · rintro hok es₁ u ⟨es₂, rfl⟩ hu
    have hfirst := ((meets_append hu es₂).mp hok).1
    exact meets_invariant Inv
      (fun s e t hok hs he => (hstep s e t hs he).mpr hok) hfirst hs hu

/-- Two conditions that are one wherever the invariant holds. -/
theorem meets_congr {step : σ → ε → Option σ} {ok ok' : σ → ε → Prop}
    (Inv : σ → Prop)
    (hstep : ∀ s e t, Inv s → step s e = some t →
      Inv t ∧ (ok s e ↔ ok' s e))
    {s t : σ} {es : List ε} (hs : Inv s) (h : run step s es = some t) :
    Meets step ok s es ↔ Meets step ok' s es := by
  induction es generalizing s with
  | nil => exact Iff.rfl
  | cons e es ih =>
      obtain ⟨u, hu, ht⟩ := run_cons_some h
      obtain ⟨hInv, hiff⟩ := hstep s e u hs hu
      constructor
      · rintro ⟨hok, hrest⟩
        exact .cons hu (hiff.mp hok) ((ih hInv ht).mp (hrest u hu))
      · rintro ⟨hok, hrest⟩
        exact .cons hu (hiff.mpr hok) ((ih hInv ht).mpr (hrest u hu))

/-- A condition that an invariant draws from another. -/
theorem Meets.weaken {step : σ → ε → Option σ} {ok ok' : σ → ε → Prop}
    (Inv : σ → Prop)
    (hstep : ∀ s e t, ok s e → Inv s → step s e = some t → Inv t)
    (hok' : ∀ s e, ok s e → Inv s → ok' s e) {s : σ} {es : List ε}
    (hs : Inv s) (hok : Meets step ok s es) : Meets step ok' s es := by
  induction es generalizing s with
  | nil => trivial
  | cons e es ih =>
      refine ⟨hok' s e hok.1 hs, ?_⟩
      intro t ht
      exact ih (hstep s e t hok.1 hs ht) (hok.2 t ht)

end StepRun
