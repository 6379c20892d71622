import Mathlib.Algebra.Group.Nat.Defs

/-! # Base 128

    A natural number as bytes of seven bits each, the lowest first, with the top
    bit set in every byte but the last.  `encode` is the shortest such form and
    `decode` takes any, as far as the first byte without the top bit. -/

namespace Varint

/-! ## Bytes -/

/-- The seven bits a byte carries. -/
def group (b : UInt8) : Nat := b.toNat % 128

/-- Another byte follows. -/
def Continues (b : UInt8) : Prop := 128 ≤ b.toNat

instance (b : UInt8) : Decidable (Continues b) :=
  inferInstanceAs (Decidable (_ ≤ _))

/-- The last byte of a number, for `g < 128`. -/
def last (g : Nat) : UInt8 := UInt8.ofNat g

/-- Any other byte, for `g < 128`. -/
def more (g : Nat) : UInt8 := UInt8.ofNat (g + 128)

theorem toNat_last {g : Nat} (h : g < 128) : (last g).toNat = g := by
  rw [last, UInt8.toNat_ofNat']
  omega

theorem toNat_more {g : Nat} (h : g < 128) : (more g).toNat = g + 128 := by
  rw [more, UInt8.toNat_ofNat']
  omega

theorem group_lt (b : UInt8) : group b < 128 := Nat.mod_lt _ (by decide)

theorem group_last {g : Nat} (h : g < 128) : group (last g) = g := by
  rw [group, toNat_last h]
  omega

theorem group_more {g : Nat} (h : g < 128) : group (more g) = g := by
  rw [group, toNat_more h]
  omega

theorem not_continues_last {g : Nat} (h : g < 128) : ¬ Continues (last g) := by
  rw [Continues, toNat_last h]
  omega

theorem continues_more {g : Nat} (h : g < 128) : Continues (more g) := by
  rw [Continues, toNat_more h]
  omega

/-! ## Numbers -/

/-- The shortest form of a number. -/
def encode (n : Nat) : List UInt8 :=
  if n < 128 then [last n] else more (n % 128) :: encode (n / 128)
termination_by n
decreasing_by omega

/-- The number in front, and the bytes behind it; `none` when the bytes end
    inside it. -/
def decode : List UInt8 → Option (Nat × List UInt8)
  | [] => none
  | b :: rest =>
      if Continues b then
        (decode rest).map fun p => (group b + 128 * p.1, p.2)
      else some (group b, rest)

theorem encode_of_lt {n : Nat} (h : n < 128) : encode n = [last n] := by
  rw [encode, if_pos h]

theorem encode_of_le {n : Nat} (h : 128 ≤ n) :
    encode n = more (n % 128) :: encode (n / 128) := by
  rw [encode, if_neg (Nat.not_lt.mpr h)]

theorem decode_of_continues {b : UInt8} (h : Continues b) (rest : List UInt8) :
    decode (b :: rest)
      = (decode rest).map fun p => (group b + 128 * p.1, p.2) :=
  if_pos h

theorem decode_of_not_continues {b : UInt8} (h : ¬ Continues b)
    (rest : List UInt8) : decode (b :: rest) = some (group b, rest) :=
  if_neg h

/-- What `decode` can have made of a first byte. -/
theorem decode_cons_eq_some {b : UInt8} {bytes rest : List UInt8} {n : Nat}
    (h : decode (b :: bytes) = some (n, rest)) :
    (Continues b ∧ ∃ m, decode bytes = some (m, rest) ∧ n = group b + 128 * m)
      ∨ (¬ Continues b ∧ n = group b ∧ bytes = rest) := by
  by_cases hb : Continues b
  · rw [decode_of_continues hb, Option.map_eq_some_iff] at h
    obtain ⟨⟨m, rest'⟩, hdec, heq⟩ := h
    obtain ⟨rfl, rfl⟩ := Prod.mk.inj heq
    exact Or.inl ⟨hb, m, hdec, rfl⟩
  · rw [decode_of_not_continues hb] at h
    obtain ⟨rfl, rfl⟩ := Prod.mk.inj (Option.some.inj h)
    exact Or.inr ⟨hb, rfl, rfl⟩

/-- A number of at least two bytes, one byte at a time. -/
theorem encode_add_mul {g m : Nat} (hg : g < 128) (hm : 0 < m) :
    encode (g + 128 * m) = more g :: encode m := by
  rw [encode_of_le (by omega)]
  have hmod : (g + 128 * m) % 128 = g := by omega
  have hdiv : (g + 128 * m) / 128 = m := by omega
  rw [hmod, hdiv]

/-- Induction along the bytes of a number. -/
theorem encode_induct {P : Nat → Prop} (single : ∀ n, n < 128 → P n)
    (step : ∀ g m, g < 128 → 0 < m → P m → P (g + 128 * m)) (n : Nat) :
    P n := by
  induction n using Nat.strongRecOn with
  | ind n ih =>
      by_cases h : n < 128
      · exact single n h
      · have hrec := ih (n / 128) (by omega)
        have hstep := step (n % 128) (n / 128) (by omega) (by omega) hrec
        have heq : n % 128 + 128 * (n / 128) = n := by omega
        rw [heq] at hstep
        exact hstep

/-- **WHAT IS WRITTEN IS READ**, and nothing of what follows it. -/
theorem decode_encode (n : Nat) (rest : List UInt8) :
    decode (encode n ++ rest) = some (n, rest) := by
  induction n using encode_induct with
  | single n h =>
      rw [encode_of_lt h]
      show decode (last n :: rest) = _
      rw [decode_of_not_continues (not_continues_last h), group_last h]
  | step g m hg hm ih =>
      rw [encode_add_mul hg hm]
      show decode (more g :: (encode m ++ rest)) = _
      rw [decode_of_continues (continues_more hg), ih, group_more hg]
      rfl

theorem encode_ne_nil (n : Nat) : encode n ≠ [] := by
  by_cases h : n < 128
  · rw [encode_of_lt h]
    exact List.cons_ne_nil _ _
  · rw [encode_of_le (Nat.not_lt.mp h)]
    exact List.cons_ne_nil _ _

/-- Seven more bits, one more byte. -/
theorem length_encode_le {k n : Nat} (hk : 0 < k) (h : n < 128 ^ k) :
    (encode n).length ≤ k := by
  induction n using encode_induct generalizing k with
  | single n hn =>
      rw [encode_of_lt hn]
      exact hk
  | step g m hg hm ih =>
      rw [encode_add_mul hg hm]
      cases k with
      | zero => exact absurd hk (Nat.lt_irrefl 0)
      | succ k =>
          rw [Nat.pow_succ] at h
          have hm' : m < 128 ^ k := by omega
          have hk' : 0 < k := by
            cases k with
            | zero => rw [Nat.pow_zero] at hm'; omega
            | succ k => exact Nat.succ_pos k
          exact Nat.succ_le_succ (ih hk' hm')

/-- And not one byte less. -/
theorem lt_length_encode {k n : Nat} (h : 128 ^ k ≤ n) : k < (encode n).length := by
  induction n using encode_induct generalizing k with
  | single n hn =>
      rw [encode_of_lt hn]
      cases k with
      | zero => exact Nat.one_pos
      | succ k =>
          have hpow : 128 ^ 1 ≤ 128 ^ (k + 1) :=
            Nat.pow_le_pow_right (by decide) (Nat.le_add_left 1 k)
          omega
  | step g m hg hm ih =>
      rw [encode_add_mul hg hm]
      cases k with
      | zero => exact Nat.succ_pos _
      | succ k =>
          rw [Nat.pow_succ] at h
          exact Nat.succ_lt_succ (ih (by omega))

/-- What is left is a proper end of what there was. -/
theorem length_lt_of_decode {bytes rest : List UInt8} {n : Nat}
    (h : decode bytes = some (n, rest)) : rest.length < bytes.length := by
  induction bytes generalizing n with
  | nil => exact nomatch h
  | cons b bytes ih =>
      rcases decode_cons_eq_some h with ⟨-, m, hdec, -⟩ | ⟨-, -, rfl⟩
      · exact Nat.lt_succ_of_lt (ih hdec)
      · exact Nat.lt_succ_self _

/-- No form of a number is shorter than its encoding. -/
theorem length_encode_le_of_decode {bytes rest : List UInt8} {n : Nat}
    (h : decode bytes = some (n, rest)) :
    (encode n).length + rest.length ≤ bytes.length := by
  induction bytes generalizing n with
  | nil => exact nomatch h
  | cons b bytes ih =>
      have hg := group_lt b
      rcases decode_cons_eq_some h with ⟨-, m, hdec, rfl⟩ | ⟨-, rfl, rfl⟩
      · have hrec : (encode m).length + rest.length ≤ bytes.length := ih hdec
        have hshort := length_lt_of_decode hdec
        rw [List.length_cons]
        cases m with
        | zero =>
            -- A last group of zero says nothing, and is not written.
            show (encode (group b)).length + rest.length ≤ _
            rw [encode_of_lt hg, List.length_singleton]
            omega
        | succ m =>
            show (encode (group b + 128 * (m + 1))).length + rest.length ≤ _
            have hpos : 0 < m + 1 := Nat.succ_pos m
            rw [encode_add_mul hg hpos, List.length_cons]
            omega
      · rw [encode_of_lt hg, List.length_singleton, List.length_cons]
        omega

end Varint
