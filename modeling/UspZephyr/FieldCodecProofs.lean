import Mathlib.Algebra.Group.Nat.Defs
import Mathlib.Data.List.Basic

/-! # Fields that are written twice

    A structure that travels as a message has two forms, and a converter in each
    direction copies it field by field.  What a field goes through is a `switch`
    over the constants of an enumeration, a change of width, or a test against
    zero.  This file has these three with the laws of a round trip, and what a
    conversion in one direction keeps of the meaning.

    `NativeEnum` is an enumeration of a header that is not at hand: the values of
    the constants that a `switch` names are a parameter, and it may have others
    (`NativeEnum.switch_back_iff`). -/

namespace FieldCodec

variable {α β μ : Type}

/-! ## Enumerations -/

/-- A value of a C enumeration type: one of its constants, or another
    integer. -/
inductive CEnum (α : Type) where
  | const (c : α)
  | other (value : Int)
  deriving DecidableEq, Repr

namespace CEnum

/-- A `switch` over the constants, with a default. -/
def switch (table : α → β) (default : β) : CEnum α → CEnum β
  | .const c => .const (table c)
  | .other _ => .const default

/-- A `switch` over the constants that refuses anything else. -/
def switch? (table : α → β) : CEnum α → Option (CEnum β)
  | .const c => some (.const (table c))
  | .other _ => none

/-- The value is a constant of the type. -/
def IsConst (x : CEnum α) : Prop := ∃ c, x = .const c

/-- Both values are constants, of the same meaning. -/
def SameMeaning (ma : α → μ) (mb : β → μ) (x : CEnum α) (y : CEnum β) : Prop :=
  ∃ a b, x = .const a ∧ y = .const b ∧ ma a = mb b

/-- A constant of the same meaning, or the default for a value that is none. -/
def SameMeaningOr (ma : α → μ) (mb : β → μ) (default : β) (x : CEnum α)
    (y : CEnum β) : Prop :=
  SameMeaning ma mb x y ∨ (∃ v, x = .other v) ∧ y = .const default

/-- There and back through two tables that refuse what is no constant. -/
theorem switch?_switch? {there : α → β} {back : β → α}
    (h : ∀ a, back (there a) = a) {x : CEnum α} (hx : x.IsConst) :
    ∃ y, switch? there x = some y ∧ switch? back y = some x := by
  obtain ⟨a, rfl⟩ := hx
  refine ⟨_, rfl, ?_⟩
  show some (CEnum.const (back (there a))) = some (.const a)
  rw [h]

/-- A table that keeps the meaning of constants. -/
theorem switch_sameMeaning {table : α → β} {ma : α → μ} {mb : β → μ}
    (h : ∀ a, ma a = mb (table a)) (d : β) (x : CEnum α) :
    SameMeaningOr ma mb d x (switch table d x) := by
  cases x with
  | const a => exact Or.inl ⟨a, table a, rfl, rfl, h a⟩
  | other v => exact Or.inr ⟨⟨v, rfl⟩, rfl⟩

theorem switch?_sameMeaning {table : α → β} {ma : α → μ} {mb : β → μ}
    (h : ∀ a, ma a = mb (table a)) {x : CEnum α} {y : CEnum β}
    (hy : switch? table x = some y) : SameMeaning ma mb x y := by
  cases x with
  | const a =>
      cases hy
      exact ⟨a, table a, rfl, rfl, h a⟩
  | other v => exact nomatch hy

/-- A checked switch accepts the constants. -/
theorem switch?_isSome {table : α → β} {x : CEnum α} :
    (switch? table x).isSome = true ↔ x.IsConst := by
  cases x with
  | const a => exact ⟨fun _ => ⟨a, rfl⟩, fun _ => rfl⟩
  | other v =>
      constructor
      · intro h
        exact nomatch h
      · rintro ⟨a, ha⟩
        exact nomatch ha

end CEnum

/-! ## Enumerations of other headers -/

/-- The constants that a `switch` names. -/
class Constants (α : Type) where
  constants : List α
  mem_constants : ∀ c, c ∈ constants

/-- The values that a header gives them, which differ, as the labels of a `switch`
    do.  Any other value of the enumeration is one that the `switch` does not
    name. -/
structure NativeEnum (α : Type) where
  value : α → Int
  distinct : ∀ {a b}, value a = value b → a = b

namespace NativeEnum

/-- The values 0, 1 and so on. -/
def counted (α : Type) [DecidableEq α] [Constants α] : NativeEnum α where
  value c := (Constants.constants (α := α)).idxOf c
  distinct := fun {a _} h =>
    (List.idxOf_inj (Constants.mem_constants a)).mp (Int.ofNat_inj.mp h)

/-- The value is that of a constant. -/
def Named (E : NativeEnum α) (x : Int) : Prop := ∃ c, E.value c = x

/-- The label that a `switch` finds for a value. -/
def read [Constants α] (E : NativeEnum α) (x : Int) : CEnum α :=
  match (Constants.constants (α := α)).find? fun c => E.value c = x with
  | some c => .const c
  | none => .other x

/-- The value that is stored. -/
def write (E : NativeEnum α) : CEnum α → Int
  | .const c => E.value c
  | .other v => v

variable [Constants α] (E : NativeEnum α)

/-- A constant is found. -/
theorem read_value (c : α) : E.read (E.value c) = .const c := by
  rw [read]
  cases hfind : (Constants.constants (α := α)).find?
      fun d => E.value d = E.value c with
  | some d =>
      have hvalue := List.find?_some hfind
      rw [decide_eq_true_eq] at hvalue
      rw [E.distinct hvalue]
  | none =>
      have hnone := List.find?_eq_none.mp hfind c (Constants.mem_constants c)
      exact absurd (decide_eq_true rfl) hnone

/-- Nothing else is. -/
theorem read_isConst {x : Int} : (E.read x).IsConst ↔ E.Named x := by
  constructor
  · intro h
    rw [read] at h
    cases hfind : (Constants.constants (α := α)).find? fun d => E.value d = x with
    | some d =>
        have hvalue := List.find?_some hfind
        exact ⟨d, of_decide_eq_true hvalue⟩
    | none =>
        rw [hfind] at h
        exact nomatch h
  · rintro ⟨c, rfl⟩
    exact ⟨c, E.read_value c⟩

/-- Reading loses nothing. -/
theorem write_read (x : Int) : E.write (E.read x) = x := by
  rw [read]
  cases hfind : (Constants.constants (α := α)).find? fun d => E.value d = x with
  | some d =>
      have hvalue := List.find?_some hfind
      exact of_decide_eq_true hvalue
  | none => rfl

/-- What a `switch` stores is a constant. -/
theorem read_write_switch (table : β → α) (d : α) (x : CEnum β) :
    E.read (E.write (CEnum.switch table d x)) = CEnum.switch table d x := by
  cases x with
  | const b => exact E.read_value (table b)
  | other v => exact E.read_value d

/-- **THERE AND BACK** from a native value: just the values that are named. -/
theorem switch_back_iff {there : α → β} {back : β → α}
    (h : ∀ a, back (there a) = a) (d : β) (e : α) {x : Int} :
    E.write (CEnum.switch back e (CEnum.switch there d (E.read x))) = x
      ↔ E.Named x := by
  constructor
  · intro hback
    cases hswitch : CEnum.switch there d (E.read x) with
    | const b =>
        rw [hswitch] at hback
        exact ⟨back b, hback⟩
    | other v =>
        rw [hswitch] at hback
        exact ⟨e, hback⟩
  · rintro ⟨c, rfl⟩
    rw [E.read_value]
    show E.value (back (there c)) = E.value c
    rw [h]

/-- A table that keeps the meaning, to a native value. -/
theorem switch_sameMeaning {table : β → α} {mb : β → μ} {ma : α → μ}
    (h : ∀ b, mb b = ma (table b)) (d : α) (x : CEnum β) :
    CEnum.SameMeaningOr mb ma d x (E.read (E.write (CEnum.switch table d x))) := by
  rw [E.read_write_switch]
  exact CEnum.switch_sameMeaning h d x

theorem switch?_sameMeaning {table : β → α} {mb : β → μ} {ma : α → μ}
    (h : ∀ b, mb b = ma (table b)) {x : CEnum β} {y : CEnum α}
    (hy : CEnum.switch? table x = some y) :
    CEnum.SameMeaning mb ma x (E.read (E.write y)) := by
  obtain ⟨b, a, hx, ha, hm⟩ := CEnum.switch?_sameMeaning h hy
  rw [ha]
  exact ⟨b, a, hx, E.read_value a, hm⟩

end NativeEnum

/-! ## Integers -/

/-- An unsigned field, widened and narrowed again. -/
theorem narrow_widen {w l : Nat} (h : w ≤ l) (x : BitVec w) :
    (x.setWidth l).setWidth w = x := by
  rw [BitVec.setWidth_setWidth_of_le x h, BitVec.setWidth_eq]

/-- A signed field, widened and narrowed again. -/
theorem narrow_signExtend {w l : Nat} (h : w ≤ l) (x : BitVec w) :
    (x.signExtend l).setWidth w = x := by
  refine BitVec.eq_of_getLsbD_eq ?_
  intro i hi
  rw [BitVec.getLsbD_setWidth, BitVec.getLsbD_signExtend]
  simp [hi, Nat.lt_of_lt_of_le hi h]

/-- The narrow field is the wide one reduced to its width. -/
def Reduced {w l : Nat} (x : BitVec l) (y : BitVec w) : Prop :=
  y.toNat = x.toNat % 2 ^ w

/-- The narrow field is the wide one reduced to its balanced range. -/
def ReducedSigned {w l : Nat} (x : BitVec l) (y : BitVec w) : Prop :=
  y.toInt = x.toInt.bmod (2 ^ w)

theorem reduced_narrow {w l : Nat} (x : BitVec l) : Reduced x (x.setWidth w) :=
  BitVec.toNat_setWidth ..

theorem reducedSigned_narrow {w l : Nat} (h : w ≤ l) (x : BitVec l) :
    ReducedSigned x (x.setWidth w) := by
  rw [ReducedSigned, BitVec.toInt_setWidth, BitVec.toInt_eq_toNat_bmod,
    Int.bmod_bmod_of_dvd (Nat.pow_dvd_pow 2 h)]

/-! ## Booleans -/

/-- An integer as a `bool`. -/
def toBool {w : Nat} (x : BitVec w) : Bool := x != 0

/-- A `bool` as an integer. -/
def ofBool {w : Nat} (b : Bool) : BitVec w := if b then 1 else 0

/-- An integer that is 0 or 1, as a `bool` and back. -/
theorem ofBool_toBool {w : Nat} {x : BitVec w} (h : x = 0 ∨ x = 1) :
    ofBool (toBool x) = x := by
  by_cases hx : x = 0
  · subst hx
    simp [toBool, ofBool]
  · rw [toBool, ofBool, if_pos (by simpa using hx)]
    exact (h.resolve_left hx).symm

end FieldCodec
