import Mathlib.Algebra.Group.Nat.Defs

/-! # The words that describe a field

    A descriptor of nanopb is a table of words: one, two, four or eight for a
    field, in which a macro has packed what is known of the field and from which
    `load_descriptor_values` takes it apart again.  `fieldAt_fieldinfo` says that
    the one undoes the other, in every width and as far as the assertions of the
    macros go. -/

namespace PbFieldInfo

/-! ## Bits in a word -/

/-- Fields next to each other. -/
theorem or_shiftLeft {a k : Nat} (ha : a < 2 ^ k) (b : Nat) :
    a ||| b <<< k = a + 2 ^ k * b := by
  rw [Nat.or_comm, ← Nat.shiftLeft_add_eq_or_of_lt ha, Nat.shiftLeft_eq,
    Nat.mul_comm, Nat.add_comm]

theorem and_mask (x n : Nat) : x &&& (2 ^ n - 1) = x % 2 ^ n :=
  Nat.and_two_pow_sub_one_eq_mod x n

theorem shift_mask (x k n m : Nat) (hm : m = 2 ^ n - 1) :
    (x >>> k) &&& m = x / 2 ^ k % 2 ^ n := by
  rw [hm, and_mask, Nat.shiftRight_eq_div_pow]

/-- A mask that does not begin at the lowest bit. -/
theorem and_shifted_mask (x n k : Nat) :
    x &&& ((2 ^ n - 1) <<< k) = 2 ^ k * (x / 2 ^ k % 2 ^ n) := by
  have h : x &&& ((2 ^ n - 1) <<< k) = ((x >>> k) &&& (2 ^ n - 1)) <<< k := by
    apply Nat.eq_of_testBit_eq
    intro i
    rw [Nat.testBit_and, Nat.testBit_shiftLeft, Nat.testBit_shiftLeft,
      Nat.testBit_and, Nat.testBit_shiftRight]
    by_cases hi : k ≤ i
    · have hsum : k + (i - k) = i := by omega
      rw [hsum]
      cases x.testBit i <;> simp
    · simp [hi]
  rw [h, and_mask, Nat.shiftRight_eq_div_pow, Nat.shiftLeft_eq, Nat.mul_comm]

/-! ## The words of a field -/

/-- The arguments of `PB_FIELDINFO_1`, `_2`, `_4` and `_8`. -/
structure FieldInfo where
  tag : Nat
  type : Nat
  dataOffset : Nat
  dataSize : Nat
  sizeOffset : Int
  arraySize : Nat
  deriving DecidableEq, Repr

/-- The number in the name of the macro. -/
inductive Width where
  | one
  | two
  | four
  | eight
  deriving DecidableEq, Repr

/-- `(uint32_t)` of an `int`. -/
def u32 (i : Int) : Nat := (i % 4294967296).toNat

/-- `PB_FIELDINFO_1`, `_2`, `_4` and `_8`. -/
def fieldinfo : Width → FieldInfo → List Nat
  | .one, f =>
      [0 ||| ((f.tag <<< 2) &&& 0xFF) ||| (f.type <<< 8)
        ||| ((f.dataOffset &&& 0xFF) <<< 16)
        ||| ((u32 f.sizeOffset &&& 0x0F) <<< 24)
        ||| ((f.dataSize &&& 0x0F) <<< 28)]
  | .two, f =>
      [1 ||| ((f.tag <<< 2) &&& 0xFF) ||| (f.type <<< 8)
        ||| ((f.arraySize &&& 0xFFF) <<< 16)
        ||| ((u32 f.sizeOffset &&& 0x0F) <<< 28),
       (f.dataOffset &&& 0xFFFF) ||| ((f.dataSize &&& 0xFFF) <<< 16)
        ||| ((f.tag &&& 0x3C0) <<< 22)]
  | .four, f =>
      [2 ||| ((f.tag <<< 2) &&& 0xFF) ||| (f.type <<< 8)
        ||| ((f.arraySize &&& 0xFFFF) <<< 16),
       u32 (f.sizeOffset.bmod 256) ||| ((f.tag <<< 2) &&& 0xFFFFFF00),
       f.dataOffset, f.dataSize]
  | .eight, f =>
      [3 ||| ((f.tag <<< 2) &&& 0xFF) ||| (f.type <<< 8),
       u32 (f.sizeOffset.bmod 256) ||| ((f.tag <<< 2) &&& 0xFFFFFF00),
       f.dataOffset, f.dataSize, f.arraySize, 0, 0, 0]

/-- `PB_FITS`. -/
def pbFits (value bits : Nat) : Prop := value < 1 <<< bits

instance (value bits : Nat) : Decidable (pbFits value bits) :=
  inferInstanceAs (Decidable (_ < _))

/-- `PB_FIELDINFO_ASSERT_1`, `_2`, `_4` and `_8`. -/
def fieldinfoAssert : Width → FieldInfo → Prop
  | .one, f =>
      pbFits f.tag 6 ∧ pbFits f.dataOffset 8 ∧ pbFits (u32 f.sizeOffset) 4
        ∧ pbFits f.dataSize 4 ∧ pbFits f.arraySize 1
  | .two, f =>
      pbFits f.tag 10 ∧ pbFits f.dataOffset 16 ∧ pbFits (u32 f.sizeOffset) 4
        ∧ pbFits f.dataSize 12 ∧ pbFits f.arraySize 12
  | .four, f =>
      pbFits f.tag 16 ∧ pbFits f.dataOffset 16
        ∧ pbFits (u32 (f.sizeOffset.bmod 256)) 8
        ∧ pbFits f.dataSize 16 ∧ pbFits f.arraySize 16
  | .eight, f =>
      pbFits f.tag 16 ∧ pbFits f.dataOffset 16
        ∧ pbFits (u32 (f.sizeOffset.bmod 256)) 8
        ∧ pbFits f.dataSize 16 ∧ pbFits f.arraySize 16

instance : (w : Width) → (f : FieldInfo) → Decidable (fieldinfoAssert w f)
  | .one, _ => inferInstanceAs (Decidable (_ ∧ _))
  | .two, _ => inferInstanceAs (Decidable (_ ∧ _))
  | .four, _ => inferInstanceAs (Decidable (_ ∧ _))
  | .eight, _ => inferInstanceAs (Decidable (_ ∧ _))

/-- The `switch` of `load_descriptor_values`, on the words of a field;
    `pb_size_t` has 16 bits. -/
def fieldAt (word : Nat → Nat) : FieldInfo :=
  let type := (word 0 >>> 8) &&& 0xFF
  let lowTag := (word 0 >>> 2) &&& 0x3F
  match word 0 &&& 3 with
  | 0 =>
      { tag := lowTag % 65536
        type := type
        dataOffset := (word 0 >>> 16) &&& 0xFF
        dataSize := ((word 0 >>> 28) &&& 0x0F) % 65536
        sizeOffset := Int.bmod ((word 0 >>> 24) &&& 0x0F : Nat) 256
        arraySize := 1 }
  | 1 =>
      { tag := (lowTag ||| ((word 1 >>> 28) <<< 6)) % 65536
        type := type
        dataOffset := word 1 &&& 0xFFFF
        dataSize := ((word 1 >>> 16) &&& 0x0FFF) % 65536
        sizeOffset := Int.bmod ((word 0 >>> 28) &&& 0x0F : Nat) 256
        arraySize := ((word 0 >>> 16) &&& 0x0FFF) % 65536 }
  | 2 =>
      { tag := (lowTag ||| ((word 1 >>> 8) <<< 6)) % 65536
        type := type
        dataOffset := word 2
        dataSize := word 3 % 65536
        sizeOffset := Int.bmod (word 1 &&& 0xFF : Nat) 256
        arraySize := (word 0 >>> 16) % 65536 }
  | _ =>
      { tag := (lowTag ||| ((word 1 >>> 8) <<< 6)) % 65536
        type := type
        dataOffset := word 2
        dataSize := word 3 % 65536
        sizeOffset := Int.bmod (word 1 &&& 0xFF : Nat) 256
        arraySize := word 4 % 65536 }

/-- `pb_type_t` has 8 bits, an array has an element, and what says whether the
    field is there, or how often, stands no further in front of it than an
    `int8_t` can say. -/
structure FieldInfo.Declared (f : FieldInfo) : Prop where
  type : f.type < 256
  arraySize : 0 < f.arraySize
  sizeOffset : 0 ≤ f.sizeOffset ∧ f.sizeOffset < 128

instance (f : FieldInfo) : Decidable f.Declared :=
  decidable_of_iff
    (f.type < 256 ∧ 0 < f.arraySize ∧ 0 ≤ f.sizeOffset ∧ f.sizeOffset < 128)
    ⟨fun h => ⟨h.1, h.2.1, h.2.2⟩, fun h => ⟨h.1, h.2, h.3⟩⟩

theorem low_tag (tag : Nat) : (tag <<< 2) &&& 0xFF = (tag % 64) <<< 2 := by
  rw [show (0xFF : Nat) = 2 ^ 8 - 1 from rfl, and_mask, Nat.shiftLeft_eq,
    Nat.shiftLeft_eq]
  omega

/-- The lowest two bytes of the first word, in every format. -/
theorem low_half {code : Nat} (hcode : code < 4) (tag type : Nat) :
    code ||| ((tag <<< 2) &&& 0xFF) ||| (type <<< 8)
      = code + 4 * (tag % 64) + 256 * type := by
  have hlow : code ||| (tag % 64) <<< 2 = code + 4 * (tag % 64) :=
    or_shiftLeft hcode _
  rw [low_tag, hlow]
  exact or_shiftLeft (by omega) type

theorem u32_natCast {n : Nat} (h : n < 128) : u32 n = n := by
  rw [u32]
  omega

theorem bmod_natCast {n : Nat} (h : n < 128) : Int.bmod n 256 = n := by
  rw [Int.bmod]
  omega

/-- What does not need its mask. -/
theorem and_mask_of_lt {x : Nat} (n : Nat) (h : x < 2 ^ n) :
    x &&& (2 ^ n - 1) = x :=
  (and_mask x n).trans (Nat.mod_eq_of_lt h)

/-- The only word of the shortest format. -/
theorem word_one {tag type offset s size : Nat} (htype : type < 256)
    (hoffset : offset < 256) (hs : s < 16) (hsize : size < 16) :
    0 ||| ((tag <<< 2) &&& 0xFF) ||| (type <<< 8)
        ||| ((offset &&& 0xFF) <<< 16) ||| ((s &&& 0x0F) <<< 24)
        ||| ((size &&& 0x0F) <<< 28)
      = 4 * (tag % 64) + 256 * type + 65536 * offset + 16777216 * s
        + 268435456 * size := by
  have hmask : offset &&& 0xFF = offset := and_mask_of_lt 8 hoffset
  have hmask' : s &&& 0x0F = s := and_mask_of_lt 4 hs
  have hmask'' : size &&& 0x0F = size := and_mask_of_lt 4 hsize
  have h16 : 0 + 4 * (tag % 64) + 256 * type ||| offset <<< 16
      = 4 * (tag % 64) + 256 * type + 65536 * offset := by
    rw [Nat.zero_add]
    exact or_shiftLeft (by omega) offset
  have h24 : 4 * (tag % 64) + 256 * type + 65536 * offset ||| s <<< 24
      = 4 * (tag % 64) + 256 * type + 65536 * offset + 16777216 * s :=
    or_shiftLeft (by omega) s
  rw [low_half (by omega), hmask, hmask', hmask'', h16, h24]
  exact or_shiftLeft (by omega) size

/-- The first word of two. -/
theorem word_two {tag type count s : Nat} (htype : type < 256)
    (hcount : count < 4096) (hs : s < 16) :
    1 ||| ((tag <<< 2) &&& 0xFF) ||| (type <<< 8)
        ||| ((count &&& 0xFFF) <<< 16) ||| ((s &&& 0x0F) <<< 28)
      = 1 + 4 * (tag % 64) + 256 * type + 65536 * count + 268435456 * s := by
  have hmask : count &&& 0xFFF = count := and_mask_of_lt 12 hcount
  have hmask' : s &&& 0x0F = s := and_mask_of_lt 4 hs
  have h16 : 1 + 4 * (tag % 64) + 256 * type ||| count <<< 16
      = 1 + 4 * (tag % 64) + 256 * type + 65536 * count :=
    or_shiftLeft (by omega) count
  rw [low_half (by omega), hmask, hmask', h16]
  exact or_shiftLeft (by omega) s

/-- And the second. -/
theorem word_two_next {tag offset size : Nat} (htag : tag < 1024)
    (hoffset : offset < 65536) (hsize : size < 4096) :
    (offset &&& 0xFFFF) ||| ((size &&& 0xFFF) <<< 16)
        ||| ((tag &&& 0x3C0) <<< 22)
      = offset + 65536 * size + 268435456 * (tag / 64) := by
  have hmask : offset &&& 0xFFFF = offset := and_mask_of_lt 16 hoffset
  have hmask' : size &&& 0xFFF = size := and_mask_of_lt 12 hsize
  have hhigh : (tag &&& 0x3C0) <<< 22 = (tag / 64) <<< 28 := by
    have h : tag &&& 0x3C0 = 64 * (tag / 64 % 16) := and_shifted_mask tag 4 6
    rw [h, Nat.shiftLeft_eq, Nat.shiftLeft_eq]
    omega
  have h16 : offset ||| size <<< 16 = offset + 65536 * size :=
    or_shiftLeft hoffset size
  rw [hmask, hmask', hhigh, h16]
  exact or_shiftLeft (by omega) _

/-- The first word of four. -/
theorem word_four {tag type count : Nat} (htype : type < 256)
    (hcount : count < 65536) :
    2 ||| ((tag <<< 2) &&& 0xFF) ||| (type <<< 8)
        ||| ((count &&& 0xFFFF) <<< 16)
      = 2 + 4 * (tag % 64) + 256 * type + 65536 * count := by
  have hmask : count &&& 0xFFFF = count := and_mask_of_lt 16 hcount
  rw [low_half (by omega), hmask]
  exact or_shiftLeft (by omega) count

/-- The second of four or eight. -/
theorem word_four_next {tag s : Nat} (htag : tag < 65536) (hs : s < 256) :
    s ||| ((tag <<< 2) &&& 0xFFFFFF00) = s + 256 * (tag / 64) := by
  have hhigh : (tag <<< 2) &&& 0xFFFFFF00 = (tag / 64) <<< 8 := by
    have h : (tag <<< 2) &&& 0xFFFFFF00 = 256 * ((tag <<< 2) / 256 % 16777216) :=
      and_shifted_mask (tag <<< 2) 24 8
    rw [h, Nat.shiftLeft_eq, Nat.shiftLeft_eq]
    omega
  rw [hhigh]
  exact or_shiftLeft hs _

/-- The two parts of a tag. -/
theorem tag_parts (tag : Nat) : (tag % 64) ||| ((tag / 64) <<< 6) = tag := by
  have hlt : tag % 64 < 2 ^ 6 := Nat.mod_lt tag (by omega)
  rw [or_shiftLeft hlt]
  omega

theorem low_two_bits (x : Nat) : x &&& 3 = x % 4 := and_mask x 2

theorem fieldAt_one {word : Nat → Nat} {tag type offset s size : Nat}
    (htag : tag < 64) (htype : type < 256) (hoffset : offset < 256)
    (hs : s < 16) (hsize : size < 16)
    (h0 : word 0 = 4 * (tag % 64) + 256 * type + 65536 * offset + 16777216 * s
      + 268435456 * size) :
    fieldAt word = ⟨tag, type, offset, size, s, 1⟩ := by
  have hcode : word 0 &&& 3 = 0 := by
    rw [low_two_bits, h0]
    omega
  have htag' : (word 0 >>> 2) &&& 0x3F = tag := by
    rw [shift_mask (word 0) 2 6 0x3F rfl, h0]
    omega
  have htype' : (word 0 >>> 8) &&& 0xFF = type := by
    rw [shift_mask (word 0) 8 8 0xFF rfl, h0]
    omega
  have hoffset' : (word 0 >>> 16) &&& 0xFF = offset := by
    rw [shift_mask (word 0) 16 8 0xFF rfl, h0]
    omega
  have hs' : (word 0 >>> 24) &&& 0x0F = s := by
    rw [shift_mask (word 0) 24 4 0x0F rfl, h0]
    omega
  have hsize' : (word 0 >>> 28) &&& 0x0F = size := by
    rw [shift_mask (word 0) 28 4 0x0F rfl, h0]
    omega
  rw [fieldAt]
  simp only [hcode, htag', htype', hoffset', hs', hsize']
  rw [bmod_natCast (by omega), Nat.mod_eq_of_lt (by omega : tag < 65536),
    Nat.mod_eq_of_lt (by omega : size < 65536)]

theorem fieldAt_two {word : Nat → Nat} {tag type offset s size count : Nat}
    (htag : tag < 1024) (htype : type < 256) (hoffset : offset < 65536)
    (hs : s < 16) (hsize : size < 4096) (hcount : count < 4096)
    (h0 : word 0 = 1 + 4 * (tag % 64) + 256 * type + 65536 * count
      + 268435456 * s)
    (h1 : word 1 = offset + 65536 * size + 268435456 * (tag / 64)) :
    fieldAt word = ⟨tag, type, offset, size, s, count⟩ := by
  have hcode : word 0 &&& 3 = 1 := by
    rw [low_two_bits, h0]
    omega
  have hlow : (word 0 >>> 2) &&& 0x3F = tag % 64 := by
    rw [shift_mask (word 0) 2 6 0x3F rfl, h0]
    omega
  have hhigh : word 1 >>> 28 = tag / 64 := by
    rw [Nat.shiftRight_eq_div_pow, h1]
    omega
  have htype' : (word 0 >>> 8) &&& 0xFF = type := by
    rw [shift_mask (word 0) 8 8 0xFF rfl, h0]
    omega
  have hoffset' : word 1 &&& 0xFFFF = offset := by
    have h : word 1 &&& 0xFFFF = word 1 % 65536 := and_mask (word 1) 16
    rw [h, h1]
    omega
  have hs' : (word 0 >>> 28) &&& 0x0F = s := by
    rw [shift_mask (word 0) 28 4 0x0F rfl, h0]
    omega
  have hsize' : (word 1 >>> 16) &&& 0x0FFF = size := by
    rw [shift_mask (word 1) 16 12 0x0FFF rfl, h1]
    omega
  have hcount' : (word 0 >>> 16) &&& 0x0FFF = count := by
    rw [shift_mask (word 0) 16 12 0x0FFF rfl, h0]
    omega
  rw [fieldAt]
  simp only [hcode, hlow, hhigh, tag_parts, htype', hoffset', hs', hsize',
    hcount']
  rw [bmod_natCast (by omega), Nat.mod_eq_of_lt (by omega : tag < 65536),
    Nat.mod_eq_of_lt (by omega : size < 65536),
    Nat.mod_eq_of_lt (by omega : count < 65536)]

theorem fieldAt_four {word : Nat → Nat} {tag type s size count : Nat}
    (htag : tag < 65536) (htype : type < 256) (hs : s < 128)
    (hsize : word 3 = size) (hsize' : size < 65536)
    (hcount : count < 65536)
    (h0 : word 0 = 2 + 4 * (tag % 64) + 256 * type + 65536 * count)
    (h1 : word 1 = s + 256 * (tag / 64)) :
    fieldAt word = ⟨tag, type, word 2, size, s, count⟩ := by
  have hcode : word 0 &&& 3 = 2 := by
    rw [low_two_bits, h0]
    omega
  have hlow : (word 0 >>> 2) &&& 0x3F = tag % 64 := by
    rw [shift_mask (word 0) 2 6 0x3F rfl, h0]
    omega
  have hhigh : word 1 >>> 8 = tag / 64 := by
    rw [Nat.shiftRight_eq_div_pow, h1]
    omega
  have htype' : (word 0 >>> 8) &&& 0xFF = type := by
    rw [shift_mask (word 0) 8 8 0xFF rfl, h0]
    omega
  have hs' : word 1 &&& 0xFF = s := by
    have h : word 1 &&& 0xFF = word 1 % 256 := and_mask (word 1) 8
    rw [h, h1]
    omega
  have hcount' : word 0 >>> 16 = count := by
    rw [Nat.shiftRight_eq_div_pow, h0]
    omega
  rw [fieldAt]
  simp only [hcode, hlow, hhigh, tag_parts, htype', hs', hcount', hsize]
  rw [bmod_natCast hs, Nat.mod_eq_of_lt htag, Nat.mod_eq_of_lt hsize',
    Nat.mod_eq_of_lt hcount]

theorem fieldAt_eight {word : Nat → Nat} {tag type s size count : Nat}
    (htag : tag < 65536) (htype : type < 256) (hs : s < 128)
    (hsize : word 3 = size) (hsize' : size < 65536)
    (hcount : word 4 = count) (hcount' : count < 65536)
    (h0 : word 0 = 3 + 4 * (tag % 64) + 256 * type)
    (h1 : word 1 = s + 256 * (tag / 64)) :
    fieldAt word = ⟨tag, type, word 2, size, s, count⟩ := by
  have hcode : word 0 &&& 3 = 3 := by
    rw [low_two_bits, h0]
    omega
  have hlow : (word 0 >>> 2) &&& 0x3F = tag % 64 := by
    rw [shift_mask (word 0) 2 6 0x3F rfl, h0]
    omega
  have hhigh : word 1 >>> 8 = tag / 64 := by
    rw [Nat.shiftRight_eq_div_pow, h1]
    omega
  have htype' : (word 0 >>> 8) &&& 0xFF = type := by
    rw [shift_mask (word 0) 8 8 0xFF rfl, h0]
    omega
  have hs' : word 1 &&& 0xFF = s := by
    have h : word 1 &&& 0xFF = word 1 % 256 := and_mask (word 1) 8
    rw [h, h1]
    omega
  rw [fieldAt]
  simp only [hcode, hlow, hhigh, tag_parts, htype', hs', hsize, hcount]
  rw [bmod_natCast hs, Nat.mod_eq_of_lt htag, Nat.mod_eq_of_lt hsize',
    Nat.mod_eq_of_lt hcount']

/-- **PACKED AND UNPACKED**: what the macro of any width makes of a field, if its
    assertion holds, is read as the field. -/
theorem fieldAt_fieldinfo (w : Width) {f : FieldInfo} (hd : f.Declared)
    (hassert : fieldinfoAssert w f) {word : Nat → Nat}
    (hword : ∀ j, j < (fieldinfo w f).length →
      word j = (fieldinfo w f).getD j 0) : fieldAt word = f := by
  obtain ⟨tag, type, offset, size, soffset, count⟩ := f
  obtain ⟨htype, hcount, hs, hs'⟩ := hd
  dsimp only at htype hcount hs hs'
  obtain ⟨s, rfl⟩ := Int.eq_ofNat_of_zero_le hs
  have hs128 : s < 128 := by omega
  have hu32 : u32 (s : Int) = s := u32_natCast hs128
  have hbmod : u32 (Int.bmod s 256) = s := by
    rw [bmod_natCast hs128, hu32]
  cases w with
  | one =>
      obtain ⟨htag, hoffset, hsmall, hsize, hone⟩ := hassert
      simp only [pbFits, hu32, Nat.shiftLeft_eq] at htag hoffset hsmall hsize hone
      have hcount' : count = 1 := by omega
      subst hcount'
      have h0 := hword 0 Nat.one_pos
      rw [fieldinfo, hu32] at h0
      exact fieldAt_one htag htype hoffset hsmall hsize
        (h0.trans (word_one htype hoffset hsmall hsize))
  | two =>
      obtain ⟨htag, hoffset, hsmall, hsize, hfits⟩ := hassert
      simp only [pbFits, hu32, Nat.shiftLeft_eq] at htag hoffset hsmall hsize hfits
      have h0 := hword 0 Nat.two_pos
      have h1 := hword 1 Nat.one_lt_two
      rw [fieldinfo, hu32] at h0
      exact fieldAt_two htag htype hoffset hsmall hsize hfits
        (h0.trans (word_two htype hfits hsmall))
        (h1.trans (word_two_next htag hoffset hsize))
  | four =>
      obtain ⟨htag, hoffset, -, hsize, hfits⟩ := hassert
      simp only [pbFits, Nat.shiftLeft_eq] at htag hoffset hsize hfits
      have h0 := hword 0 (by show 0 < 4; omega)
      have h1 := hword 1 (by show 1 < 4; omega)
      have h2 := hword 2 (by show 2 < 4; omega)
      have h3 := hword 3 (by show 3 < 4; omega)
      rw [fieldinfo, hbmod] at h1
      have h := fieldAt_four htag htype hs128 h3 hsize hfits
        (h0.trans (word_four htype hfits))
        (h1.trans (word_four_next htag (by omega)))
      rw [h, h2]
      rfl
  | eight =>
      obtain ⟨htag, hoffset, -, hsize, hfits⟩ := hassert
      simp only [pbFits, Nat.shiftLeft_eq] at htag hoffset hsize hfits
      have h0 := hword 0 (by show 0 < 8; omega)
      have h1 := hword 1 (by show 1 < 8; omega)
      have h2 := hword 2 (by show 2 < 8; omega)
      have h3 := hword 3 (by show 3 < 8; omega)
      have h4 := hword 4 (by show 4 < 8; omega)
      rw [fieldinfo, hbmod] at h1
      have h := fieldAt_eight htag htype hs128 h3 hsize h4 hfits
        (h0.trans (low_half (by omega) tag type))
        (h1.trans (word_four_next htag (by omega)))
      rw [h, h2]
      rfl

/-! ## What all formats have in common -/

/-- The lowest two bits of the first word. -/
def Width.code : Width → Nat
  | .one => 0
  | .two => 1
  | .four => 2
  | .eight => 3

theorem length_fieldinfo (w : Width) (f : FieldInfo) :
    (fieldinfo w f).length = 1 <<< w.code := by
  cases w <;> rfl

theorem fieldinfo_pos (w : Width) (f : FieldInfo) :
    0 < (fieldinfo w f).length := by
  cases w <;> exact Nat.succ_pos _

/-- The lower half of the first word. -/
theorem head_fieldinfo (w : Width) {f : FieldInfo} (hd : f.Declared)
    (hassert : fieldinfoAssert w f) :
    ∃ high, (fieldinfo w f).getD 0 0
      = w.code + 4 * (f.tag % 64) + 256 * f.type + 65536 * high := by
  obtain ⟨htype, -, hs, hs'⟩ := hd
  obtain ⟨s, hsoffset⟩ := Int.eq_ofNat_of_zero_le hs
  have hu32 : u32 f.sizeOffset = s := by
    rw [hsoffset]
    exact u32_natCast (by omega)
  cases w with
  | one =>
      obtain ⟨-, hoffset, hsmall, hsize, -⟩ := hassert
      simp only [pbFits, hu32, Nat.shiftLeft_eq] at hoffset hsmall hsize
      refine ⟨f.dataOffset + 256 * s + 4096 * f.dataSize, ?_⟩
      have h := @word_one f.tag f.type f.dataOffset s f.dataSize
        htype hoffset hsmall hsize
      rw [← hu32] at h
      refine h.trans ?_
      rw [hu32, Width.code]
      omega
  | two =>
      obtain ⟨-, -, hsmall, -, hcount⟩ := hassert
      simp only [pbFits, hu32, Nat.shiftLeft_eq] at hsmall hcount
      refine ⟨f.arraySize + 4096 * s, ?_⟩
      have h := @word_two f.tag f.type f.arraySize s htype hcount hsmall
      rw [← hu32] at h
      refine h.trans ?_
      rw [hu32, Width.code]
      omega
  | four =>
      obtain ⟨-, -, -, -, hcount⟩ := hassert
      simp only [pbFits, Nat.shiftLeft_eq] at hcount
      exact ⟨f.arraySize, word_four htype hcount⟩
  | eight => exact ⟨0, low_half (by omega) f.tag f.type⟩

/-- The fast look at a tag. -/
theorem head_tag {w : Width} {f : FieldInfo} (hd : f.Declared)
    (hassert : fieldinfoAssert w f) :
    ((fieldinfo w f).getD 0 0 >>> 2) &&& 0x3F = f.tag % 64 := by
  obtain ⟨high, h⟩ := head_fieldinfo w hd hassert
  have htype := hd.type
  have hcode : w.code < 4 := by cases w <;> decide
  rw [shift_mask _ 2 6 0x3F rfl, h]
  omega

/-- The look at a type. -/
theorem head_type {w : Width} {f : FieldInfo} (hd : f.Declared)
    (hassert : fieldinfoAssert w f) :
    ((fieldinfo w f).getD 0 0 >>> 8) &&& 0xFF = f.type := by
  obtain ⟨high, h⟩ := head_fieldinfo w hd hassert
  have htype := hd.type
  have hcode : w.code < 4 := by cases w <;> decide
  rw [shift_mask _ 8 8 0xFF rfl, h]
  omega

/-- The number of words, from the first of them. -/
theorem head_length {w : Width} {f : FieldInfo} (hd : f.Declared)
    (hassert : fieldinfoAssert w f) :
    1 <<< ((fieldinfo w f).getD 0 0 &&& 3) = (fieldinfo w f).length := by
  obtain ⟨high, h⟩ := head_fieldinfo w hd hassert
  have hcode : w.code < 4 := by cases w <;> decide
  have hlow : (fieldinfo w f).getD 0 0 &&& 3 = w.code := by
    rw [low_two_bits, h]
    omega
  rw [hlow, length_fieldinfo]

end PbFieldInfo
