/-! # Byte memories — what a sequence of stores leaves behind

    A memory is a function from addresses to cells.  `splice` is the one
    operation everything else is built from: it is `memcpy`, `memset` and a
    plain store.  Over it stands the specification a storage layer has to meet:
    a cell holds what the LAST store covering it wrote, or its initial value
    when no store covers it (`applyAll_lastStored`).

    Nothing here is about a particular device; the cell type is arbitrary. -/

namespace ByteMemory

variable {β : Type}

/-- Copy `n` cells of `src` over `dst`, from address `a` on. -/
def splice (dst : Nat → β) (a n : Nat) (src : Nat → β) : Nat → β :=
  fun x => if a ≤ x ∧ x < a + n then src (x - a) else dst x

theorem splice_inside {dst src : Nat → β} {a n x : Nat} (h1 : a ≤ x)
    (h2 : x < a + n) : splice dst a n src x = src (x - a) :=
  if_pos ⟨h1, h2⟩

theorem splice_outside {dst src : Nat → β} {a n x : Nat}
    (h : x < a ∨ a + n ≤ x) : splice dst a n src x = dst x := by
  refine if_neg ?_
  rintro ⟨h1, h2⟩
  omega

/-- An empty copy changes nothing. -/
@[simp] theorem splice_zero (dst src : Nat → β) (a : Nat) :
    splice dst a 0 src = dst := by
  funext x
  exact splice_outside (by omega)

/-- Filling a range tells which range it was, if it is not empty. -/
theorem splice_fill_inj {a n a' n' : Nat} {b c : β} (hbc : b ≠ c) (hn : 0 < n)
    (h : splice (fun _ => c) a n (fun _ => b)
      = splice (fun _ => c) a' n' (fun _ => b)) : a = a' ∧ n = n' := by
  have hrange : ∀ x, (a ≤ x ∧ x < a + n) ↔ (a' ≤ x ∧ x < a' + n') := by
    intro x
    have hx := congrFun h x
    simp only [splice] at hx
    constructor
    · intro hin
      refine Decidable.byContradiction ?_
      intro hout
      rw [if_pos hin, if_neg hout] at hx
      exact hbc hx
    · intro hin
      refine Decidable.byContradiction ?_
      intro hout
      rw [if_pos hin, if_neg hout] at hx
      exact hbc hx.symm
  -- the first cell of each range lies in the other, and the first cell behind
  -- each range outside the other
  have h1 := (hrange a).mp ⟨Nat.le_refl a, by omega⟩
  have h2 := (hrange a').mpr ⟨Nat.le_refl a', by omega⟩
  have h3 := hrange (a + n)
  have h4 := hrange (a' + n')
  omega

/-! ## Sequences of stores -/

/-- One store: `len` cells of `data` at `addr`. -/
structure Store (β : Type) where
  addr : Nat
  len : Nat
  data : Nat → β

/-- The store writes the cell `x`. -/
def Store.Covers (w : Store β) (x : Nat) : Prop :=
  w.addr ≤ x ∧ x < w.addr + w.len

instance (w : Store β) (x : Nat) : Decidable (w.Covers x) :=
  inferInstanceAs (Decidable (_ ∧ _))

/-- The memory after one store. -/
def Store.apply (m : Nat → β) (w : Store β) : Nat → β :=
  splice m w.addr w.len w.data

/-- The memory after a sequence of stores, oldest first. -/
def applyAll (m : Nat → β) : List (Store β) → Nat → β
  | [] => m
  | w :: ws => applyAll (w.apply m) ws

/-- The cell the last store covering `x` wrote there. -/
def lastStored : List (Store β) → Nat → Option β
  | [], _ => none
  | w :: ws, x =>
      match lastStored ws x with
      | some b => some b
      | none => if w.Covers x then some (w.data (x - w.addr)) else none

/-- **LAST STORE WINS**: after any sequence of stores a cell holds what the
    last store covering it wrote, or its initial value. -/
theorem applyAll_lastStored (m : Nat → β) (ws : List (Store β)) (x : Nat) :
    applyAll m ws x = (lastStored ws x).getD (m x) := by
  induction ws generalizing m with
  | nil => rfl
  | cons w ws ih =>
      show applyAll (w.apply m) ws x = _
      rw [ih]
      cases hl : lastStored ws x with
      | some b => simp only [lastStored, hl, Option.getD_some]
      | none =>
          by_cases hc : w.Covers x
          · simp only [lastStored, hl, if_pos hc, Option.getD_none,
              Option.getD_some]
            exact splice_inside hc.1 hc.2
          · simp only [lastStored, hl, if_neg hc, Option.getD_none]
            exact if_neg hc

/-- The cell a store covers after which no other came. -/
theorem lastStored_concat (ws : List (Store β)) {w : Store β} {x : Nat}
    (h : w.Covers x) :
    lastStored (ws ++ [w]) x = some (w.data (x - w.addr)) := by
  induction ws with
  | nil => exact if_pos h
  | cons v vs ih =>
      show (match lastStored (vs ++ [w]) x with
        | some b => some b
        | none => _) = _
      rw [ih]

/-- A cell no store covers was stored by none of them. -/
theorem lastStored_eq_none {ws : List (Store β)} {x : Nat}
    (h : ∀ w ∈ ws, ¬ w.Covers x) : lastStored ws x = none := by
  induction ws with
  | nil => rfl
  | cons w ws ih =>
      have htail : lastStored ws x = none :=
        ih (fun v hv => h v (List.mem_cons_of_mem _ hv))
      simp only [lastStored, htail]
      exact if_neg (h w (List.mem_cons_self ..))

/-- A cell no store covers keeps its initial value. -/
theorem applyAll_untouched (m : Nat → β) {ws : List (Store β)} {x : Nat}
    (h : ∀ w ∈ ws, ¬ w.Covers x) : applyAll m ws x = m x := by
  rw [applyAll_lastStored, lastStored_eq_none h]
  rfl

end ByteMemory
