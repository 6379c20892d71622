/-! # Once around a ring

    A `do … while` loop over `n` positions: one step forward, from the last
    position to the first, then a look at the position, until something is found
    or the loop is back at the position `start`.  The loop may begin behind the
    last position, which makes it look at the positions up to `start` only.

    `search_hit` and `search_miss` say what it comes to: the one position among
    those it passes that has what is looked for, or `start` when none has. -/

namespace RingSearch

variable {S : Type}

/-- The position after `c`. -/
def next (n c : Nat) : Nat := if n ≤ c + 1 then 0 else c + 1

/-- The loop, with a bound on its turns. -/
def search (advance : S → S) (probe : S → Bool × S) (index : S → Nat)
    (start : Nat) : Nat → S → Bool × S
  | 0, s => (false, s)
  | fuel + 1, s =>
      let p := probe (advance s)
      if p.1 then p
      else if index p.2 ≠ start then search advance probe index start fuel p.2
      else p

/-- The positions that the loop passes on its way from `c` to `start`. -/
def Visited (n start c j : Nat) : Prop :=
  if c < start then c < j ∧ j ≤ start else (c < j ∧ j < n) ∨ j ≤ start

/-- The number of turns that takes. -/
def turns (n start c : Nat) : Nat :=
  if c < start then start - c
  else if c < n then n - c + start
  else start + 1

theorem next_lt {n c : Nat} (hn : 0 < n) : next n c < n := by
  rw [next]
  split <;> omega

/-- The first position passed, and those after it. -/
theorem visited_iff {n start c j : Nat} (hstart : start < n) :
    Visited n start c j
      ↔ j = next n c ∨ (next n c ≠ start ∧ Visited n start (next n c) j) := by
  rw [Visited, Visited, next]
  split <;> split <;> split <;> omega

theorem turns_pos (n start c : Nat) : 0 < turns n start c := by
  rw [turns]
  split
  · omega
  · split <;> omega

theorem turns_next {n start c : Nat} (hstart : start < n) (hc : c ≤ n)
    (h : next n c ≠ start) :
    turns n start (next n c) + 1 = turns n start c := by
  by_cases hlast : n ≤ c + 1
  · -- From the last position, or from behind it, the next one is the first.
    have hnext : next n c = 0 := if_pos hlast
    rw [hnext] at h ⊢
    rw [turns, turns, if_pos (by omega), if_neg (by omega)]
    split <;> omega
  · have hnext : next n c = c + 1 := if_neg hlast
    rw [hnext] at h ⊢
    rw [turns, turns]
    by_cases hbefore : c < start
    · rw [if_pos (by omega), if_pos hbefore]
      omega
    · rw [if_neg (by omega), if_pos (by omega), if_neg hbefore,
        if_pos (by omega)]
      omega

/-- From anywhere, `n` turns are enough. -/
theorem turns_le {n start : Nat} (hstart : start < n) (c : Nat) :
    turns n start c ≤ n := by
  rw [turns]
  split
  · omega
  · split <;> omega

section

variable {n start : Nat} {advance : S → S} (probe : S → Bool × S)
  {index : S → Nat} {At Found : Nat → S → Prop} {Hit : Nat → Prop}

/-- The one position passed that has what is looked for is found. -/
theorem search_hit (hstart : start < n)
    (hadvance : ∀ c s, c ≤ n → At c s → At (next n c) (advance s))
    (hindex : ∀ c s, At c s → index s = c)
    (hhit : ∀ c s, c < n → Hit c → At c s →
      (probe s).1 = true ∧ Found c (probe s).2)
    (hmiss : ∀ c s, c < n → ¬ Hit c → At c s →
      (probe s).1 = false ∧ At c (probe s).2)
    {j : Nat} (hunique : ∀ i, i < n → (Hit i ↔ i = j))
    (fuel : Nat) {c : Nat} {s : S} (hc : c ≤ n) (hat : At c s)
    (hj : Visited n start c j) (hfuel : turns n start c ≤ fuel) :
    (search advance probe index start fuel s).1 = true
      ∧ Found j (search advance probe index start fuel s).2 := by
  induction fuel generalizing c s with
  | zero =>
      have hpos := turns_pos n start c
      omega
  | succ fuel ih =>
      have hlt : next n c < n := next_lt (by omega)
      have hat' := hadvance c s hc hat
      rw [search]
      by_cases heq : next n c = j
      · have hfound := hhit _ _ hlt ((hunique _ hlt).mpr heq) hat'
        rw [if_pos hfound.1, ← heq]
        exact hfound
      · have hnot := hmiss _ _ hlt (fun h => heq ((hunique _ hlt).mp h)) hat'
        rcases (visited_iff hstart).mp hj with rfl | ⟨hne, hrest⟩
        · exact absurd rfl heq
        · have hturns := turns_next hstart hc hne
          rw [if_neg (by rw [hnot.1]; exact Bool.false_ne_true),
            hindex _ _ hnot.2, if_pos hne]
          exact ih (Nat.le_of_lt hlt) hnot.2 hrest (by omega)

/-- When no position passed has it, the loop ends where it was to end. -/
theorem search_miss (hstart : start < n)
    (hadvance : ∀ c s, c ≤ n → At c s → At (next n c) (advance s))
    (hindex : ∀ c s, At c s → index s = c)
    (hmiss : ∀ c s, c < n → ¬ Hit c → At c s →
      (probe s).1 = false ∧ At c (probe s).2)
    (fuel : Nat) {c : Nat} {s : S} (hc : c ≤ n) (hat : At c s)
    (hnone : ∀ j, j < n → Visited n start c j → ¬ Hit j)
    (hfuel : turns n start c ≤ fuel) :
    (search advance probe index start fuel s).1 = false
      ∧ At start (search advance probe index start fuel s).2 := by
  induction fuel generalizing c s with
  | zero =>
      have hpos := turns_pos n start c
      omega
  | succ fuel ih =>
      have hlt : next n c < n := next_lt (by omega)
      have hat' := hadvance c s hc hat
      have hfirst := hnone _ hlt ((visited_iff hstart).mpr (Or.inl rfl))
      have hnot := hmiss _ _ hlt hfirst hat'
      rw [search, if_neg (by rw [hnot.1]; exact Bool.false_ne_true),
        hindex _ _ hnot.2]
      by_cases hne : next n c = start
      · rw [if_neg (fun h => h hne), ← hne]
        exact hnot
      · rw [if_pos hne]
        refine ih (Nat.le_of_lt hlt) hnot.2 (fun j hj hvisited => ?_) ?_
        · exact hnone j hj ((visited_iff hstart).mpr (Or.inr ⟨hne, hvisited⟩))
        · have hturns := turns_next hstart hc hne
          omega

end

end RingSearch
