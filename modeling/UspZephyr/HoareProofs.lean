/-! # Programs that return or stop, and what holds afterwards

    `Triple P x Q E` says that the program `x`, started where `P` holds, returns
    with `Q` or stops with `E`.  There is a rule for each way the programs are
    put together; `Triple.performAll` is the rule for a list of calls that each
    keep an invariant. -/

namespace Hoare

variable {ε σ α β : Type}

/-- From every state with `P` the program returns with `Q` or stops with `E`. -/
def Triple (P : σ → Prop) (x : EStateM ε σ α) (Q : α → σ → Prop)
    (E : σ → Prop) : Prop :=
  ∀ s, P s → match x s with
    | .ok a t => Q a t
    | .error _ t => E t

/-- A program that only returns. -/
theorem Triple.pure {P : σ → Prop} {Q : α → σ → Prop} {E : σ → Prop} {a : α}
    (h : ∀ s, P s → Q a s) : Triple P (Pure.pure a : EStateM ε σ α) Q E :=
  fun s hs => h s hs

/-- The state, read. -/
theorem Triple.get {P E : σ → Prop} :
    Triple P (MonadState.get : EStateM ε σ σ) (fun a s => a = s ∧ P s) E :=
  fun _ hs => ⟨rfl, hs⟩

/-- One program after the other. -/
theorem Triple.bind {P : σ → Prop} {Q : α → σ → Prop} {R : β → σ → Prop}
    {E : σ → Prop} {x : EStateM ε σ α} {f : α → EStateM ε σ β}
    (hx : Triple P x Q E) (hf : ∀ a, Triple (Q a) (f a) R E) :
    Triple P (x >>= f) R E := by
  intro s hs
  have hfirst := hx s hs
  show match EStateM.bind x f s with
    | .ok a t => R a t
    | .error _ t => E t
  rw [EStateM.bind]
  cases hrun : x s with
  | ok a t =>
      rw [hrun] at hfirst
      exact hf a t hfirst
  | error e t =>
      rw [hrun] at hfirst
      exact hfirst

/-- Less is assumed, or more is promised. -/
theorem Triple.weaken {P P' : σ → Prop} {Q Q' : α → σ → Prop} {E : σ → Prop}
    {x : EStateM ε σ α} (h : Triple P x Q E) (hP : ∀ s, P' s → P s)
    (hQ : ∀ a s, Q a s → Q' a s) : Triple P' x Q' E := by
  intro s hs
  have hrun := h s (hP s hs)
  cases hx : x s with
  | ok a t =>
      rw [hx] at hrun
      exact hQ a t hrun
  | error e t =>
      rw [hx] at hrun
      exact hrun

/-- A branch. -/
theorem Triple.ite {P : σ → Prop} {Q : α → σ → Prop} {E : σ → Prop}
    {c : Prop} [Decidable c] {x y : EStateM ε σ α}
    (hx : c → Triple P x Q E) (hy : ¬ c → Triple P y Q E) :
    Triple P (if c then x else y) Q E := by
  by_cases hc : c
  · rw [if_pos hc]
    exact hx hc
  · rw [if_neg hc]
    exact hy hc

/-- Calls, one after the other. -/
def performAll : List (EStateM ε σ α) → EStateM ε σ Unit
  | [] => Pure.pure ()
  | x :: xs => x >>= fun _ => performAll xs

/-- **AN INVARIANT OF EVERY CALL HOLDS AFTER ALL OF THEM.** -/
theorem Triple.performAll {Inv E : σ → Prop} {xs : List (EStateM ε σ α)}
    (h : ∀ x ∈ xs, Triple Inv x (fun _ => Inv) E) :
    Triple Inv (performAll xs) (fun _ => Inv) E := by
  induction xs with
  | nil => exact .pure fun _ hs => hs
  | cons x xs ih =>
      refine .bind (h x List.mem_cons_self) ?_
      intro _
      exact ih fun y hy => h y (List.mem_cons_of_mem x hy)

end Hoare
