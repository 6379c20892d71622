import UspZephyr.FlrpMenuProofs

/-! # The hex strings of the FLRP menu

    `flrp_api_menu_get_array_from_hex_string` gives each pair of characters to
    `strtoul`, which takes more than pairs of digits: a blank or a sign before a
    digit will do.  The bytes are stored as they are read, so a bad pair leaves
    those before it in the array.

    `parsesExactly_iff` is about every string and every array, and about the two
    commands that may reject one. -/

namespace HexString

open FlrpApi FlrpMenu

/-! ## Pairs of characters -/

def IsHexDigit (c : Char) : Prop := digitValue c < 16

instance (c : Char) : Decidable (IsHexDigit c) :=
  inferInstanceAs (Decidable (_ < _))

/-- Two digits. -/
def HexPair (pair : CString) : Prop :=
  ∃ c d, pair = [c, d] ∧ IsHexDigit c ∧ IsHexDigit d

/-- A blank or a sign before a digit. -/
def LenientPair (pair : CString) : Prop :=
  ∃ c d, pair = [c, d] ∧ (isspace c = true ∨ c = '-' ∨ c = '+') ∧ IsHexDigit d

/-- `strtoul` takes the whole pair. -/
def Consumed (pair : CString) : Prop := HexPair pair ∨ LenientPair pair

/-- The byte `strtoul` makes of a pair. -/
def byteOf (pair : CString) : BitVec 8 := BitVec.ofNat 8 (strtoul 16 pair).1

/-! ## What is asked of the parser -/

/-- The length that the array asks for, or that of a single byte. -/
def FitsArray (n : Nat) (hexString : CString) : Prop :=
  hexString.length = n * 2 ∨ hexString.length = 2

/-- `2 * n` digits, or two. -/
def Grammar (n : Nat) (hexString : CString) : Prop :=
  FitsArray n hexString ∧ ∀ c ∈ hexString, IsHexDigit c

/-- The byte that the digits for the place `i` denote. -/
def denoted (hexString : CString) (i : Nat) : BitVec 8 :=
  let first := if hexString.length = 2 then 0 else 2 * i
  BitVec.ofNat 8 (digitValue (hexString.getD first '0') * 16
    + digitValue (hexString.getD (first + 1) '0'))

variable {n : Nat}

/-- The parser accepts the grammar, reads the bytes, and leaves the array alone
    if it rejects. -/
structure ParsesExactly (hexString : CString) (array : Fin n → BitVec 8) :
    Prop where
  accepts : (getArrayFromHexString hexString array true).1 = true
    ↔ Grammar n hexString
  bytes : (getArrayFromHexString hexString array true).1 = true →
    ∀ i, (getArrayFromHexString hexString array true).2 i = denoted hexString i
  atomic : (getArrayFromHexString hexString array true).1 = false →
    (getArrayFromHexString hexString array true).2 = array

/-- A rejected `set_key` leaves the key. -/
def RejectedKeepsKey (c : Calls) (s : State) (argv : List CString) : Prop :=
  (cmdSetKey c s argv).1 = -EINVAL →
    (cmdSetKey c s argv).2.menu.key = s.menu.key

/-- A rejected `target_device_eui` leaves the key, and the target. -/
structure RejectedKeepsTarget (s : State) (argv : List CString) : Prop where
  key : (cmdSetTargetDeviceEui s argv).1 = -EINVAL →
    (cmdSetTargetDeviceEui s argv).2.menu.key = s.menu.key
  target : (cmdSetTargetDeviceEui s argv).1 = -EINVAL →
    (cmdSetTargetDeviceEui s argv).2.menu.targetDeviceEui
      = s.menu.targetDeviceEui

/-- No string of the right length gets by with a blank or a sign. -/
def NoLenientPair (n : Nat) (hexString : CString) : Prop :=
  FitsArray n hexString → (∀ i, i < n → Consumed (byteStr hexString i)) →
    ∀ i, i < n → HexPair (byteStr hexString i)

/-- A pair for the array is not taken. -/
def HasBadPair (n : Nat) (hexString : CString) : Prop :=
  ∃ i, i < n ∧ ¬ Consumed (byteStr hexString i)

/-- The bytes before the first bad pair, if there is one, are those the array
    has. -/
def WritesBack (hexString : CString) (array : Fin n → BitVec 8) : Prop :=
  FitsArray n hexString → HasBadPair n hexString →
    ∀ i : Fin n, (∀ j, j ≤ i.val → Consumed (byteStr hexString j)) →
      array i = byteOf (byteStr hexString i)

/-! ## What `strtoul` makes of a pair -/

/-- Digits are neither blanks nor signs. -/
theorem IsHexDigit.not_blank {c : Char} (h : IsHexDigit c) :
    isspace c = false ∧ c ≠ '-' ∧ c ≠ '+' := by
  refine ⟨?_, ?_, ?_⟩
  · rw [IsHexDigit, digitValue] at h
    rw [isspace, Bool.or_eq_false_iff, Bool.and_eq_false_iff,
      decide_eq_false_iff_not, decide_eq_false_iff_not, decide_eq_false_iff_not]
    split at h
    · omega
    · split at h
      · omega
      · split at h
        · omega
        · omega
  · rintro rfl
    exact absurd h (by decide)
  · rintro rfl
    exact absurd h (by decide)

/-- Nothing as short as a pair has a prefix. -/
theorem radix_short {s : CString} (h : s.length ≤ 2) : radix 16 s = (16, s) := by
  match s with
  | [] => rfl
  | [c] =>
      unfold radix
      split
      · rename_i heq
        cases heq
      · rfl
      · rfl
  | [c, d] =>
      unfold radix
      split
      · rename_i heq
        cases heq
      · rfl
      · rfl

/-- The number behind blanks and a sign. -/
def numeral (s : CString) : CString := (sign (s.dropWhile isspace)).2

theorem sign_suffix (s : CString) : (sign s).2 <:+ s := by
  unfold sign
  split
  · exact List.suffix_cons _ _
  · exact List.suffix_cons _ _
  · exact List.suffix_rfl

theorem numeral_suffix (s : CString) : numeral s <:+ s :=
  (sign_suffix _).trans (List.dropWhile_suffix _)

/-- The string at `*endptr` for a short string. -/
theorem strtoul_rest {s : CString} (h : s.length ≤ 2) :
    (strtoul 16 s).2 =
      if (digits 16 0 (numeral s)).2.length = (numeral s).length then s
      else (digits 16 0 (numeral s)).2 := by
  have hradix := radix_short (Nat.le_trans (numeral_suffix s).length_le h)
  rw [numeral] at hradix
  rw [strtoul]
  simp only [hradix]
  rw [numeral]
  split
  · rfl
  · split
    · rfl
    · split
      · rfl
      · rfl

theorem digits_cons_of_digit (acc : Nat) {c : Char} (s : CString)
    (h : IsHexDigit c) :
    digits 16 acc (c :: s) = digits 16 (acc * 16 + digitValue c) s :=
  if_pos h

/-- What is read to the end has only digits. -/
theorem digits_rest_nil {acc : Nat} {s : CString} (h : (digits 16 acc s).2 = []) :
    ∀ c ∈ s, IsHexDigit c := by
  induction s generalizing acc with
  | nil => exact nofun
  | cons c s ih =>
      by_cases hc : IsHexDigit c
      · rw [digits_cons_of_digit acc s hc] at h
        intro d hd
        rcases List.mem_cons.mp hd with rfl | hd
        · exact hc
        · exact ih h d hd
      · rw [digits, if_neg (show ¬ digitValue c < 16 from hc)] at h
        cases h

/-- A string that starts with neither a blank nor a sign is all numeral. -/
theorem sign_other {c : Char} (s : CString) (hblank : isspace c = false)
    (hminus : c ≠ '-') (hplus : c ≠ '+') :
    sign ((c :: s).dropWhile isspace) = (false, c :: s) := by
  rw [List.dropWhile_cons_of_neg (by rw [hblank]; exact nofun)]
  unfold sign
  split
  · rename_i heq
    cases heq
    exact absurd rfl hminus
  · rename_i heq
    cases heq
    exact absurd rfl hplus
  · rfl

/-- The numeral of a pair that starts with a blank or a sign. -/
theorem numeral_lenient {c d : Char} (hd : IsHexDigit d)
    (hc : isspace c = true ∨ c = '-' ∨ c = '+') : numeral [c, d] = [d] := by
  obtain ⟨hblank, hminus, hplus⟩ := hd.not_blank
  rcases hc with hc | rfl | rfl
  · rw [numeral, List.dropWhile_cons_of_pos hc, sign_other [] hblank hminus hplus]
  · rfl
  · rfl

/-- Two digits are read as digits. -/
theorem strtoul_hexPair {c d : Char} (hc : IsHexDigit c) (hd : IsHexDigit d) :
    strtoul 16 [c, d] = (digitValue c * 16 + digitValue d, []) := by
  obtain ⟨hblank, hminus, hplus⟩ := hc.not_blank
  have hdigits : digits 16 0 [c, d]
      = (digitValue c * 16 + digitValue d, []) := by
    rw [digits_cons_of_digit 0 _ hc, digits_cons_of_digit _ _ hd, Nat.zero_mul,
      Nat.zero_add]
    rfl
  have hsmall : ¬ ULONG_MAX < digitValue c * 16 + digitValue d := by
    rw [IsHexDigit] at hc hd
    rw [ULONG_MAX]
    omega
  rw [strtoul, sign_other [d] hblank hminus hplus]
  simp only [radix_short (s := [c, d]) (Nat.le_refl _), hdigits]
  rw [if_neg (by exact nofun), if_neg hsmall]
  rfl

/-- What a pair has to be to be taken whole. -/
theorem strtoul_pair_iff (c d : Char) :
    (strtoul 16 [c, d]).2 = [] ↔ Consumed [c, d] := by
  constructor
  · intro h
    rw [strtoul_rest (Nat.le_refl _)] at h
    by_cases hnone : (digits 16 0 (numeral [c, d])).2.length
        = (numeral [c, d]).length
    · rw [if_pos hnone] at h
      cases h
    · rw [if_neg hnone] at h
      have hdigits := digits_rest_nil h
      -- something was read, so the last character is a digit
      have hd : d ∈ numeral [c, d] := by
        rcases List.suffix_cons_iff.mp (numeral_suffix [c, d]) with hall | hrest
        · rw [hall]
          exact List.mem_cons_of_mem _ List.mem_cons_self
        · rcases List.suffix_cons_iff.mp hrest with hall | hrest
          · rw [hall]
            exact List.mem_cons_self
          · rw [List.suffix_nil.mp hrest] at hnone
            exact absurd rfl hnone
      by_cases hlenient : isspace c = true ∨ c = '-' ∨ c = '+'
      · exact Or.inr ⟨c, d, rfl, hlenient, hdigits d hd⟩
      · have hblank : isspace c = false :=
          Bool.eq_false_iff.mpr fun h => hlenient (Or.inl h)
        have hall : numeral [c, d] = [c, d] := by
          rw [numeral, sign_other [d] hblank (fun h => hlenient (Or.inr (Or.inl h)))
            (fun h => hlenient (Or.inr (Or.inr h)))]
        rw [hall] at hdigits
        exact Or.inl ⟨c, d, rfl, hdigits c List.mem_cons_self,
          hdigits d (List.mem_cons_of_mem _ List.mem_cons_self)⟩
  · rintro (⟨_, _, hpair, hc, hd⟩ | ⟨_, _, hpair, hc, hd⟩)
    · cases hpair
      rw [strtoul_hexPair hc hd]
    · cases hpair
      rw [strtoul_rest (Nat.le_refl _), numeral_lenient hd hc,
        digits_cons_of_digit 0 _ hd]
      rfl

/-! ## The loop over the array -/

/-- The pair for a place of the array. -/
theorem byteStr_pair {hexString : CString} (hfits : FitsArray n hexString)
    {i : Nat} (hi : i < n) : ∃ c d, byteStr hexString i = [c, d] := by
  have hlength : (byteStr hexString i).length = 2 := by
    rw [byteStr]
    by_cases htwo : hexString.length = 2
    · rw [if_pos htwo, htwo]
    · rw [if_neg htwo, List.length_take, List.length_drop]
      have := hfits.resolve_right htwo
      omega
  exact List.length_eq_two.mp hlength

theorem consumed_iff {hexString : CString} (hfits : FitsArray n hexString)
    {i : Nat} (hi : i < n) :
    (strtoul 16 (byteStr hexString i)).2 = [] ↔ Consumed (byteStr hexString i) := by
  obtain ⟨c, d, hpair⟩ := byteStr_pair hfits hi
  rw [hpair]
  exact strtoul_pair_iff c d

/-- The pair for the place `i` is taken whole. -/
def taken (hexString : CString) (i : Fin n) : Bool :=
  (strtoul 16 (byteStr hexString i)).2 == []

/-- The loop writes the bytes up to the first bad pair. -/
theorem writeBytes_eq (hexString : CString) (array : Fin n → BitVec 8)
    (is : List (Fin n)) :
    (writeBytes hexString array is).1 = is.all (taken hexString)
      ∧ ∀ j, (writeBytes hexString array is).2 j
        = if j ∈ is.takeWhile (taken hexString) then byteOf (byteStr hexString j)
          else array j := by
  induction is generalizing array with
  | nil => exact ⟨rfl, fun j => (if_neg List.not_mem_nil).symm⟩
  | cons i is ih =>
      cases htaken : taken hexString i with
      | false =>
          have hend : (strtoul 16 (byteStr hexString i)).2 ≠ [] := by
            intro h
            rw [taken, h] at htaken
            cases htaken
          have hwrite : writeBytes hexString array (i :: is) = (false, array) := by
            rw [writeBytes]
            exact if_pos hend
          rw [hwrite, List.all_cons, htaken,
            List.takeWhile_cons_of_neg (by rw [htaken]; exact nofun)]
          exact ⟨rfl, fun j => (if_neg List.not_mem_nil).symm⟩
      | true =>
          have hend : (strtoul 16 (byteStr hexString i)).2 = [] :=
            eq_of_beq htaken
          have hwrite : writeBytes hexString array (i :: is)
              = writeBytes hexString
                (Function.update array i (byteOf (byteStr hexString i))) is := by
            rw [writeBytes]
            exact if_neg (not_not_intro hend)
          obtain ⟨hall, hbytes⟩ :=
            ih (Function.update array i (byteOf (byteStr hexString i)))
          rw [hwrite, List.all_cons, htaken, Bool.true_and,
            List.takeWhile_cons_of_pos htaken]
          refine ⟨hall, ?_⟩
          intro j
          rw [hbytes j]
          by_cases hj : j = i
          · subst hj
            rw [if_pos List.mem_cons_self, Function.update_self, ite_self]
          · rw [Function.update_of_ne hj]
            have hmem : j ∈ i :: is.takeWhile (taken hexString)
                ↔ j ∈ is.takeWhile (taken hexString) := by
              rw [List.mem_cons]
              exact or_iff_right hj
            by_cases hin : j ∈ is.takeWhile (taken hexString)
            · rw [if_pos hin, if_pos (hmem.mpr hin)]
            · rw [if_neg hin, if_neg (mt hmem.mp hin)]

/-- The places before the first that fails. -/
theorem mem_takeWhile_finRange {p : Fin n → Bool} {j : Fin n} :
    j ∈ (List.finRange n).takeWhile p ↔ ∀ i, i ≤ j → p i = true := by
  induction n with
  | zero => exact j.elim0
  | succ n ih =>
      rw [List.finRange_succ]
      cases hzero : p 0 with
      | false =>
          rw [List.takeWhile_cons_of_neg (by rw [hzero]; exact nofun)]
          constructor
          · exact nofun
          · intro h
            have := h 0 (Fin.zero_le j)
            rw [hzero] at this
            cases this
      | true =>
          rw [List.takeWhile_cons_of_pos hzero, List.takeWhile_map, List.mem_cons,
            List.mem_map]
          constructor
          · rintro (rfl | ⟨k, hk, rfl⟩) i hi
            · rw [Fin.le_zero_iff.mp hi]
              exact hzero
            · cases i using Fin.cases with
              | zero => exact hzero
              | succ i => exact ih.mp hk i (Fin.succ_le_succ_iff.mp hi)
          · intro h
            cases j using Fin.cases with
            | zero => exact Or.inl rfl
            | succ j =>
                refine Or.inr ⟨j, ih.mpr ?_, rfl⟩
                intro i hi
                exact h i.succ (Fin.succ_le_succ_iff.mpr hi)

/-! ## The parser -/

/-- A string that does not fit is rejected before anything is written. -/
theorem parse_misfit {hexString : CString} (array : Fin n → BitVec 8)
    (hfits : ¬ FitsArray n hexString) :
    getArrayFromHexString hexString array true = (false, array) := by
  refine if_neg ?_
  rintro (h | ⟨-, h⟩)
  · exact hfits (Or.inl h)
  · exact hfits (Or.inr h)

section Fits

variable {hexString : CString} (array : Fin n → BitVec 8)
  (hfits : FitsArray n hexString)

include hfits

theorem parse_fits : getArrayFromHexString hexString array true
    = writeBytes hexString array (List.finRange n) := by
  refine if_pos ?_
  rcases hfits with h | h
  · exact Or.inl h
  · exact Or.inr ⟨rfl, h⟩

theorem taken_iff (i : Fin n) :
    taken hexString i = true ↔ Consumed (byteStr hexString i) := by
  rw [taken, beq_iff_eq]
  exact consumed_iff hfits i.isLt

/-- Accepted is what `strtoul` takes pair by pair. -/
theorem parse_accepts : (getArrayFromHexString hexString array true).1 = true
    ↔ ∀ i, i < n → Consumed (byteStr hexString i) := by
  rw [parse_fits array hfits, (writeBytes_eq _ _ _).1, List.all_eq_true]
  constructor
  · intro h i hi
    exact (taken_iff hfits ⟨i, hi⟩).mp (h _ (List.mem_finRange _))
  · intro h i _
    exact (taken_iff hfits i).mpr (h i i.isLt)

/-- A byte that was reached is written. -/
theorem parse_reached (j : Fin n)
    (h : ∀ i, i ≤ j.val → Consumed (byteStr hexString i)) :
    (getArrayFromHexString hexString array true).2 j
      = byteOf (byteStr hexString j) := by
  rw [parse_fits array hfits, (writeBytes_eq _ _ _).2, if_pos]
  refine mem_takeWhile_finRange.mpr ?_
  intro i hi
  exact (taken_iff hfits i).mpr (h i hi)

/-- One behind a bad pair is not. -/
theorem parse_unreached (j : Fin n)
    (h : ¬ ∀ i, i ≤ j.val → Consumed (byteStr hexString i)) :
    (getArrayFromHexString hexString array true).2 j = array j := by
  rw [parse_fits array hfits, (writeBytes_eq _ _ _).2, if_neg]
  intro hmem
  refine h ?_
  intro i hi
  have htaken := mem_takeWhile_finRange.mp hmem ⟨i, Nat.lt_of_le_of_lt hi j.isLt⟩ hi
  exact (taken_iff hfits _).mp htaken

/-- The array is as it was exactly if the bytes that were reached were there. -/
theorem parse_same_iff : (getArrayFromHexString hexString array true).2 = array
    ↔ ∀ j : Fin n, (∀ i, i ≤ j.val → Consumed (byteStr hexString i)) →
      array j = byteOf (byteStr hexString j) := by
  constructor
  · intro h j hreached
    rw [← parse_reached array hfits j hreached, h]
  · intro h
    funext j
    by_cases hreached : ∀ i, i ≤ j.val → Consumed (byteStr hexString i)
    · rw [parse_reached array hfits j hreached, h j hreached]
    · exact parse_unreached array hfits j hreached

end Fits

/-- The characters of a pair are characters of the string. -/
theorem mem_of_mem_byteStr {hexString : CString} {i : Nat} {c : Char}
    (h : c ∈ byteStr hexString i) : c ∈ hexString := by
  rw [byteStr] at h
  split at h
  · exact h
  · exact List.mem_of_mem_drop (List.mem_of_mem_take h)

/-- And each character of the string is one of a pair. -/
theorem mem_byteStr_of_mem {hexString : CString}
    (hfits : FitsArray (n + 1) hexString) {c : Char} (h : c ∈ hexString) :
    ∃ i, i < n + 1 ∧ c ∈ byteStr hexString i := by
  by_cases htwo : hexString.length = 2
  · refine ⟨0, Nat.succ_pos n, ?_⟩
    rw [byteStr, if_pos htwo]
    exact h
  · obtain ⟨m, hm⟩ := List.getElem?_of_mem h
    have hlt : m < hexString.length := (List.getElem?_eq_some_iff.mp hm).1
    have hlength := hfits.resolve_right htwo
    refine ⟨m / 2, by omega, ?_⟩
    rw [byteStr, if_neg htwo]
    refine List.mem_of_getElem? (i := m % 2) ?_
    rw [List.getElem?_take_of_lt (Nat.mod_lt m (by decide)), List.getElem?_drop,
      Nat.div_add_mod]
    exact hm

/-- The grammar, pair by pair. -/
theorem hexPairs_iff {hexString : CString}
    (hfits : FitsArray (n + 1) hexString) :
    (∀ i, i < n + 1 → HexPair (byteStr hexString i))
      ↔ ∀ c ∈ hexString, IsHexDigit c := by
  constructor
  · intro h c hc
    obtain ⟨i, hi, hmem⟩ := mem_byteStr_of_mem hfits hc
    obtain ⟨a, b, hpair, ha, hb⟩ := h i hi
    rw [hpair] at hmem
    rcases List.mem_cons.mp hmem with rfl | hmem
    · exact ha
    · rw [List.mem_singleton.mp hmem]
      exact hb
  · intro h i hi
    obtain ⟨a, b, hpair⟩ := byteStr_pair hfits hi
    have hmem : ∀ c ∈ [a, b], IsHexDigit c := by
      intro c hc
      rw [← hpair] at hc
      exact h c (mem_of_mem_byteStr hc)
    exact ⟨a, b, hpair, hmem a List.mem_cons_self,
      hmem b (List.mem_cons_of_mem _ List.mem_cons_self)⟩

/-- The byte of two digits is the one they denote. -/
theorem byteOf_hexPair {hexString : CString} {i : Nat}
    (h : HexPair (byteStr hexString i)) :
    byteOf (byteStr hexString i) = denoted hexString i := by
  obtain ⟨c, d, hpair, hc, hd⟩ := h
  rw [byteOf, hpair, strtoul_hexPair hc hd, denoted]
  by_cases htwo : hexString.length = 2
  · rw [byteStr, if_pos htwo] at hpair
    rw [if_pos htwo, hpair]
    rfl
  · rw [byteStr, if_neg htwo] at hpair
    have hget : ∀ k, k < 2 → hexString[2 * i + k]? = [c, d][k]? := by
      intro k hk
      rw [← hpair, List.getElem?_take_of_lt hk, List.getElem?_drop]
    have hfirst : hexString.getD (2 * i) '0' = c := by
      rw [List.getD_eq_getElem?_getD, ← Nat.add_zero (2 * i), hget 0 (by decide)]
      rfl
    have hsecond : hexString.getD (2 * i + 1) '0' = d := by
      rw [List.getD_eq_getElem?_getD, hget 1 (by decide)]
      rfl
    rw [if_neg htwo, hfirst, hsecond]

/-- Rejected is a string that does not fit, or one with a bad pair. -/
theorem parse_rejects (hexString : CString) (array : Fin n → BitVec 8) :
    (getArrayFromHexString hexString array true).1 = false
      ↔ (FitsArray n hexString → HasBadPair n hexString) := by
  by_cases hfits : FitsArray n hexString
  · rw [← Bool.not_eq_true, parse_accepts array hfits]
    constructor
    · intro h _
      obtain ⟨i, hi⟩ := Classical.not_forall.mp h
      exact ⟨i, Classical.not_imp.mp hi⟩
    · intro h hall
      obtain ⟨i, hi, hnot⟩ := h hfits
      exact hnot (hall i hi)
  · rw [parse_misfit array hfits]
    exact ⟨fun _ h => absurd h hfits, fun _ => rfl⟩

/-- A rejected string leaves the array exactly if what it wrote was there. -/
theorem rejected_same_iff (hexString : CString) (array : Fin n → BitVec 8) :
    ((getArrayFromHexString hexString array true).1 = false →
        (getArrayFromHexString hexString array true).2 = array)
      ↔ WritesBack hexString array := by
  rw [parse_rejects]
  by_cases hfits : FitsArray n hexString
  · rw [parse_same_iff array hfits]
    constructor
    · intro h _ hbad
      exact h fun _ => hbad
    · intro h hbad
      exact h hfits (hbad hfits)
  · rw [parse_misfit array hfits]
    exact ⟨fun _ h => absurd h hfits, fun _ _ => rfl⟩

/-- What the conditions on the string and on the array come to for the parser. -/
theorem parsesExactly_iff_conditions (hexString : CString)
    (array : Fin (n + 1) → BitVec 8) :
    ParsesExactly hexString array
      ↔ NoLenientPair (n + 1) hexString ∧ WritesBack hexString array := by
  constructor
  · intro h
    refine ⟨?_, (rejected_same_iff _ _).mp h.atomic⟩
    intro hfits hall
    have hok := (parse_accepts array hfits).mpr hall
    exact (hexPairs_iff hfits).mpr (h.accepts.mp hok).2
  · rintro ⟨hlenient, hback⟩
    have hdigits : (getArrayFromHexString hexString array true).1 = true →
        FitsArray (n + 1) hexString
          ∧ ∀ i, i < n + 1 → HexPair (byteStr hexString i) := by
      intro hok
      by_cases hfits : FitsArray (n + 1) hexString
      · exact ⟨hfits, hlenient hfits ((parse_accepts array hfits).mp hok)⟩
      · rw [parse_misfit array hfits] at hok
        cases hok
    refine ⟨⟨?_, ?_⟩, ?_, (rejected_same_iff _ _).mpr hback⟩
    · intro hok
      obtain ⟨hfits, hpairs⟩ := hdigits hok
      exact ⟨hfits, (hexPairs_iff hfits).mp hpairs⟩
    · rintro ⟨hfits, hall⟩
      refine (parse_accepts array hfits).mpr ?_
      intro i hi
      exact Or.inl ((hexPairs_iff hfits).mpr hall i hi)
    · intro hok i
      obtain ⟨hfits, hpairs⟩ := hdigits hok
      rw [parse_reached array hfits i
        fun j hj => Or.inl (hpairs j (Nat.lt_of_le_of_lt hj i.isLt))]
      exact byteOf_hexPair (hpairs i i.isLt)

/-! ## The commands -/

/-- `set_key` returns `-EINVAL` for what the parser rejects, and else what the
    engine makes of the key. -/
theorem cmdSetKey_rejects (c : Calls) (s : State) (name hexString : CString) :
    (cmdSetKey c s [name, hexString]).1 = -EINVAL
      ↔ (getArrayFromHexString hexString s.menu.key true).1 = false := by
  rw [cmdSetKey]
  rcases getArrayFromHexString hexString s.menu.key true with ⟨ok, key⟩
  cases ok with
  | false => exact ⟨fun _ => rfl, fun _ => rfl⟩
  | true =>
      refine ⟨?_, nofun⟩
      intro h
      -- neither `0` nor `-EFAULT` is `-EINVAL`
      change (if (flrpApiSetKey c key s.engine).1 = true then (0 : Int)
        else -EFAULT) = -EINVAL at h
      split at h
      · exact absurd h (by decide)
      · exact absurd h (by decide)

/-- The key is what the parser leaves, rejected or not. -/
theorem cmdSetKey_key (c : Calls) (s : State) (name hexString : CString) :
    (cmdSetKey c s [name, hexString]).2.menu.key
      = (getArrayFromHexString hexString s.menu.key true).2 := by
  rw [cmdSetKey]
  rcases getArrayFromHexString hexString s.menu.key true with ⟨ok, key⟩
  cases ok with
  | false => rfl
  | true => rfl

theorem rejectedKeepsKey_iff (c : Calls) (s : State) (argv : List CString) :
    RejectedKeepsKey c s argv
      ↔ ∀ name hexString, argv = [name, hexString] →
        WritesBack hexString s.menu.key := by
  match argv with
  | [] => exact ⟨fun _ => nofun, fun _ _ => rfl⟩
  | [_] => exact ⟨fun _ => nofun, fun _ _ => rfl⟩
  | _ :: _ :: _ :: _ => exact ⟨fun _ => nofun, fun _ _ => rfl⟩
  | [name, hexString] =>
      rw [RejectedKeepsKey, cmdSetKey_rejects, cmdSetKey_key, rejected_same_iff]
      constructor
      · rintro h _ _ hargv
        cases hargv
        exact h
      · intro h
        exact h name hexString rfl

/-- `target_device_eui` returns `-EINVAL` for what the parser rejects. -/
theorem cmdSetTargetDeviceEui_rejects (s : State) (name hexString : CString) :
    (cmdSetTargetDeviceEui s [name, hexString]).1 = -EINVAL
      ↔ (getArrayFromHexString hexString s.menu.targetDeviceEui true).1
        = false := by
  rw [cmdSetTargetDeviceEui]
  rcases getArrayFromHexString hexString s.menu.targetDeviceEui true with ⟨ok, eui⟩
  cases ok with
  | false => exact ⟨fun _ => rfl, fun _ => rfl⟩
  | true =>
      refine ⟨?_, nofun⟩
      intro h
      change (0 : Int) = -EINVAL at h
      exact absurd h (by decide)

/-- The command has nothing to do with the key. -/
theorem cmdSetTargetDeviceEui_key (s : State) (argv : List CString) :
    (cmdSetTargetDeviceEui s argv).2.menu.key = s.menu.key := by
  unfold cmdSetTargetDeviceEui
  split
  · rename_i _ target
    rcases getArrayFromHexString target s.menu.targetDeviceEui true with ⟨ok, eui⟩
    cases ok with
    | false => rfl
    | true => rfl
  · rfl

/-- And clears the target if it rejects the string. -/
theorem cmdSetTargetDeviceEui_target {s : State} {name hexString : CString}
    (h : (getArrayFromHexString hexString s.menu.targetDeviceEui true).1 = false) :
    (cmdSetTargetDeviceEui s [name, hexString]).2.menu.targetDeviceEui
      = fun _ => 0 := by
  rw [cmdSetTargetDeviceEui]
  revert h
  rcases getArrayFromHexString hexString s.menu.targetDeviceEui true with ⟨ok, eui⟩
  rintro rfl
  rfl

theorem rejectedKeepsTarget_iff (s : State) (argv : List CString) :
    RejectedKeepsTarget s argv
      ↔ ∀ name hexString, argv = [name, hexString] →
        (FitsArray 8 hexString → HasBadPair 8 hexString) →
        s.menu.targetDeviceEui = fun _ => 0 := by
  match argv with
  | [] => exact ⟨fun _ => nofun, fun _ => ⟨fun _ => rfl, fun _ => rfl⟩⟩
  | [_] => exact ⟨fun _ => nofun, fun _ => ⟨fun _ => rfl, fun _ => rfl⟩⟩
  | _ :: _ :: _ :: _ =>
      exact ⟨fun _ => nofun, fun _ => ⟨fun _ => rfl, fun _ => rfl⟩⟩
  | [name, hexString] =>
      have hrejects := cmdSetTargetDeviceEui_rejects s name hexString
      constructor
      · rintro h _ _ hargv hbad
        cases hargv
        have hrejected := (parse_rejects hexString s.menu.targetDeviceEui).mpr hbad
        rw [← h.target (hrejects.mpr hrejected)]
        exact cmdSetTargetDeviceEui_target hrejected
      · intro h
        refine ⟨fun _ => cmdSetTargetDeviceEui_key s _, ?_⟩
        intro hret
        have hrejected := hrejects.mp hret
        rw [cmdSetTargetDeviceEui_target hrejected]
        exact (h name hexString rfl ((parse_rejects _ _).mp hrejected)).symm

/-! ## The parser with its commands -/

/-- **THE PARSER AND ITS COMMANDS.**  The parser does what is asked exactly if no
    pair gets by with a blank or a sign, and the bytes before a bad pair are in
    the array already; a rejected `set_key` leaves the key exactly in the latter
    case, and a rejected `target_device_eui` the target if that was clear. -/
theorem parsesExactly_iff (hexString : CString) (array : Fin (n + 1) → BitVec 8)
    (c : Calls) (s : State) (argv : List CString) :
    (ParsesExactly hexString array
        ↔ NoLenientPair (n + 1) hexString ∧ WritesBack hexString array)
      ∧ (RejectedKeepsKey c s argv
        ↔ ∀ name hexString, argv = [name, hexString] →
          WritesBack hexString s.menu.key)
      ∧ (RejectedKeepsTarget s argv
        ↔ ∀ name hexString, argv = [name, hexString] →
          (FitsArray 8 hexString → HasBadPair 8 hexString) →
          s.menu.targetDeviceEui = fun _ => 0) :=
  ⟨parsesExactly_iff_conditions hexString array, rejectedKeepsKey_iff c s argv,
    rejectedKeepsTarget_iff s argv⟩

/-- `set_key 5Azz…`, as long as a key has to be. -/
def halfKey : List CString :=
  [['s', 'e', 't', '_', 'k', 'e', 'y'], '5' :: 'A' :: List.replicate 30 'z']

/-- A blank and a digit pass for a byte, and what is rejected at its second byte
    has left the first, in an array and in the key. -/
theorem blank_accepted :
    ¬ ParsesExactly [' ', '5'] (fun _ : Fin 1 => 0)
      ∧ ¬ ParsesExactly ['5', 'A', 'z', 'z'] (fun _ : Fin 2 => 0)
      ∧ ∀ c : Calls, ¬ RejectedKeepsKey c boot halfKey := by
  refine ⟨?_, ?_, ?_⟩
  · intro h
    obtain ⟨-, hdigits⟩ := h.accepts.mp (by decide)
    exact absurd (hdigits ' ' List.mem_cons_self) (by decide)
  · intro h
    have hsame := congrFun (h.atomic (by decide)) 0
    exact absurd hsame (by decide)
  · intro c h
    rw [RejectedKeepsKey, halfKey, cmdSetKey_rejects, cmdSetKey_key] at h
    have hsame := congrFun (h (by decide)) 0
    exact absurd hsame (by decide)

end HexString
