import UspZephyr.VarintProofs

/-! # The varints of nanopb

    There are two readers of varints, one for 64 bits and one for 32, and a
    writer that keeps to 32-bit shifts.  An input stream over a buffer is the
    bytes left in it, and a call that fails gives the text it leaves in `errmsg`.

    `pbDecodeVarint_eq` and `varint32Buffer_eq` say what the long reader and the
    writer are in terms of the numbers on the wire, and `varintReaders_agree` how
    much of this is left of the short reader. -/

namespace PbVarint

open Varint

/-! ## Readers and writer -/

/-- The loop of `pb_decode_varint`. -/
def pbDecodeVarintLoop :
    Nat → BitVec 64 → List UInt8 → Except String (BitVec 64 × List UInt8)
  | bitpos, _, [] =>
      if 64 ≤ bitpos then .error "varint overflow" else .error "end-of-stream"
  | bitpos, result, byte :: rest =>
      if 64 ≤ bitpos then .error "varint overflow"
      else
        let result :=
          result ||| ((byte &&& 0x7F).toBitVec.setWidth 64 <<< bitpos)
        if byte &&& 0x80 ≠ 0 then pbDecodeVarintLoop (bitpos + 7) result rest
        else .ok (result, rest)

/-- `pb_decode_varint`. -/
def pbDecodeVarint (stream : List UInt8) :
    Except String (BitVec 64 × List UInt8) :=
  pbDecodeVarintLoop 0 0 stream

/-- The test of `pb_decode_varint32_eof` on a byte past bit 31: the number may
    have trailing zeros, or ones when it is negative. -/
def ValidExtension (bitpos : Nat) (result : BitVec 32) (byte : UInt8) : Prop :=
  let signExtension : UInt8 := if bitpos < 63 then 0xFF else 0x01
  byte &&& 0x7F = 0x00 ∨ (result >>> 31 ≠ 0 ∧ byte = signExtension)

instance (bitpos : Nat) (result : BitVec 32) (byte : UInt8) :
    Decidable (ValidExtension bitpos result byte) :=
  inferInstanceAs (Decidable (_ ∨ _))

/-- The loop of `pb_decode_varint32_eof`, for the bytes after the first. -/
def pbDecodeVarint32Loop :
    Nat → BitVec 32 → List UInt8 → Except String (BitVec 32 × List UInt8)
  | _, _, [] => .error "end-of-stream"
  | bitpos, result, byte :: rest =>
      if 32 ≤ bitpos ∧ (64 ≤ bitpos ∨ ¬ ValidExtension bitpos result byte) then
        .error "varint overflow"
      else
        let result :=
          if 32 ≤ bitpos then result
          else result ||| ((byte &&& 0x7F).toBitVec.setWidth 32 <<< bitpos)
        if byte &&& 0x80 ≠ 0 then pbDecodeVarint32Loop (bitpos + 7) result rest
        -- Only four bits fit when the last byte is at bit 28.
        else if bitpos + 7 = 35 ∧ byte &&& 0x70 ≠ 0 then
          .error "varint overflow"
        else .ok (result, rest)

/-- `pb_decode_varint32`, which is `pb_decode_varint32_eof`. -/
def pbDecodeVarint32 : List UInt8 → Except String (BitVec 32 × List UInt8)
  | [] => .error "end-of-stream"
  | byte :: rest =>
      if byte &&& 0x80 = 0 then .ok (byte.toBitVec.setWidth 32, rest)
      else
        pbDecodeVarint32Loop 7 ((byte &&& 0x7F).toBitVec.setWidth 32) rest

/-- The first loop of `pb_encode_varint_32`, in which `i` has `turns` values
    left: the bytes put into the buffer, and the one in hand. -/
def varint32LowLoop (high : BitVec 32) :
    Nat → UInt8 → BitVec 32 → List UInt8 × UInt8
  | 0, byte, _ => ([], byte)
  | turns + 1, byte, low =>
      if low ≠ 0 ∨ high ≠ 0 then
        let next := varint32LowLoop high turns
          ⟨(low &&& 0x7F).setWidth 8⟩ (low >>> 7)
        ((byte ||| 0x80) :: next.1, next.2)
      else ([], byte)

/-- The second loop, `while( high )`, with the last byte behind it.  The buffer
    has room for six bytes then. -/
def varint32HighLoop : Nat → UInt8 → BitVec 32 → List UInt8
  | 0, byte, _ => [byte]
  | room + 1, byte, high =>
      if high ≠ 0 then
        (byte ||| 0x80)
          :: varint32HighLoop room ⟨(high &&& 0x7F).setWidth 8⟩ (high >>> 7)
      else [byte]

/-- The buffer that `pb_encode_varint_32` writes. -/
def varint32Buffer (low high : BitVec 32) : List UInt8 :=
  let front := varint32LowLoop high 4 ⟨(low &&& 0x7F).setWidth 8⟩ (low >>> 7)
  if high ≠ 0 then
    front.1 ++ varint32HighLoop 5
      (front.2 ||| ⟨((high &&& 0x07) <<< 4).setWidth 8⟩) (high >>> 3)
  else front.1 ++ [front.2]

/-! ## The bits of a byte -/

theorem toNat_and_7F (b : UInt8) : (b &&& 0x7F).toBitVec.toNat = group b :=
  Nat.and_two_pow_sub_one_eq_mod b.toNat 7

theorem and_80_ne_zero_iff (b : UInt8) : b &&& 0x80 ≠ 0 ↔ Continues b := by
  have h : ∀ v : BitVec 8, v &&& 128#8 ≠ 0#8 ↔ 128 ≤ v.toNat := by
    decide +kernel
  rw [Continues, ← UInt8.toNat_toBitVec, ← h b.toBitVec, Ne, Ne,
    ← UInt8.toBitVec_inj]
  rfl

theorem and_80_eq_zero_iff (b : UInt8) : b &&& 0x80 = 0 ↔ ¬ Continues b := by
  rw [← and_80_ne_zero_iff, Ne, Classical.not_not]

theorem and_70_ne_zero_iff (b : UInt8) : b &&& 0x70 ≠ 0 ↔ 16 ≤ group b := by
  have h : ∀ v : BitVec 8, v &&& 112#8 ≠ 0#8 ↔ 16 ≤ v.toNat % 128 := by
    decide +kernel
  rw [group, ← UInt8.toNat_toBitVec, ← h b.toBitVec, Ne, Ne,
    ← UInt8.toBitVec_inj]
  rfl

theorem and_7F_eq_zero_iff (b : UInt8) : b &&& 0x7F = 0x00 ↔ group b = 0 := by
  rw [← toNat_and_7F, ← UInt8.toBitVec_inj]
  exact ⟨fun h => congrArg BitVec.toNat h, fun h => BitVec.eq_of_toNat_eq h⟩

/-- Bits put above the highest are added. -/
theorem toNat_or_shiftLeft {w k : Nat} {r : BitVec w} (x : BitVec w)
    (hr : r.toNat < 2 ^ k) :
    (r ||| x <<< k).toNat = (r.toNat + 2 ^ k * x.toNat) % 2 ^ w := by
  have hdisjoint : r &&& x <<< k = 0#w := by
    ext i hi
    rw [BitVec.getElem_and, BitVec.getElem_zero, Bool.and_eq_false_iff]
    by_cases hik : i < k
    · exact Or.inr (by rw [BitVec.getElem_shiftLeft]; simp [hik])
    · refine Or.inl ?_
      have hlt : r.toNat < 2 ^ i :=
        Nat.lt_of_lt_of_le hr (Nat.pow_le_pow_right (by decide)
          (Nat.not_lt.mp hik))
      exact Nat.testBit_lt_two_pow hlt
  rw [← BitVec.add_eq_or_of_and_eq_zero _ _ hdisjoint, BitVec.toNat_add,
    BitVec.toNat_shiftLeft, Nat.shiftLeft_eq, Nat.add_mod_mod, Nat.mul_comm]

/-- The next seven bits of a result of `7 * k` bits. -/
theorem toNat_or_group {w k : Nat} {r : BitVec w} (hw : 7 ≤ w) (b : UInt8)
    (hr : r.toNat < 2 ^ (7 * k)) :
    (r ||| (b &&& 0x7F).toBitVec.setWidth w <<< (7 * k)).toNat
      = (r.toNat + 2 ^ (7 * k) * group b) % 2 ^ w := by
  have hpow : 2 ^ 7 ≤ 2 ^ w := Nat.pow_le_pow_right (by decide) hw
  have hgroup : group b < 2 ^ w := Nat.lt_of_lt_of_le (group_lt b) hpow
  rw [toNat_or_shiftLeft _ hr, BitVec.toNat_setWidth, toNat_and_7F,
    Nat.mod_eq_of_lt hgroup]

/-- With seven bits more a number stays below the next power. -/
theorem add_mul_lt {r k g : Nat} (hr : r < 2 ^ (7 * k)) (hg : g < 128) :
    r + 2 ^ (7 * k) * g < 2 ^ (7 * (k + 1)) := by
  have hmul : 2 ^ (7 * k) * (g + 1) ≤ 2 ^ (7 * k) * 128 :=
    Nat.mul_le_mul_left _ hg
  rw [Nat.mul_succ] at hmul
  rw [Nat.mul_succ, Nat.pow_add]
  omega

/-- And so does the result with the next group. -/
theorem add_group_lt {r k : Nat} (hr : r < 2 ^ (7 * k)) (b : UInt8) (w : Nat) :
    (r + 2 ^ (7 * k) * group b) % 2 ^ w < 2 ^ (7 * (k + 1)) :=
  Nat.lt_of_le_of_lt (Nat.mod_le _ _) (add_mul_lt hr (group_lt b))

/-- A group in front of a number, `7 * k` bits up. -/
theorem add_mul_group (r k g m : Nat) :
    r + 2 ^ (7 * k) * (g + 128 * m)
      = r + 2 ^ (7 * k) * g + 2 ^ (7 * (k + 1)) * m := by
  rw [Nat.mul_succ, Nat.pow_add, Nat.mul_add, Nat.mul_assoc, Nat.add_assoc]

/-! ## The reader of 64 bits -/

/-- What `pb_decode_varint` makes of a number on the wire after `k` bytes have
    given `r`: at most ten bytes are read. -/
def read64 (k r : Nat) (stream : List UInt8) :
    Except String (BitVec 64 × List UInt8) :=
  match decode stream with
  | none =>
      if stream.length + k < 10 then .error "end-of-stream"
      else .error "varint overflow"
  | some (n, rest) =>
      if stream.length - rest.length + k ≤ 10 then
        .ok (BitVec.ofNat 64 (r + 2 ^ (7 * k) * n), rest)
      else .error "varint overflow"

theorem read64_congr {k r r' : Nat} (h : r % 2 ^ 64 = r' % 2 ^ 64)
    (stream : List UInt8) : read64 k r stream = read64 k r' stream := by
  rw [read64, read64]
  cases decode stream with
  | none => rfl
  | some p =>
      have heq : BitVec.ofNat 64 (r + 2 ^ (7 * k) * p.1)
          = BitVec.ofNat 64 (r' + 2 ^ (7 * k) * p.1) := by
        apply BitVec.eq_of_toNat_eq
        rw [BitVec.toNat_ofNat, BitVec.toNat_ofNat, Nat.add_mod, h, ← Nat.add_mod]
      show (if _ then Except.ok (_, p.2) else _) = _
      rw [heq]

theorem read64_cons_continues {k r : Nat} {b : UInt8} (hb : Continues b)
    (rest : List UInt8) :
    read64 k r (b :: rest) = read64 (k + 1) (r + 2 ^ (7 * k) * group b) rest := by
  rw [read64, read64, decode_of_continues hb]
  cases hdec : decode rest with
  | none =>
      have hiff : (b :: rest).length + k < 10 ↔ rest.length + (k + 1) < 10 := by
        rw [List.length_cons]
        omega
      simp only [Option.map_none, hiff]
  | some p =>
      have hlt := length_lt_of_decode hdec
      have hiff : (b :: rest).length - p.2.length + k ≤ 10
          ↔ rest.length - p.2.length + (k + 1) ≤ 10 := by
        rw [List.length_cons]
        omega
      simp only [Option.map_some, hiff, add_mul_group]

theorem read64_cons_last {k r : Nat} (hk : k < 10) {b : UInt8}
    (hb : ¬ Continues b) (rest : List UInt8) :
    read64 k r (b :: rest)
      = .ok (BitVec.ofNat 64 (r + 2 ^ (7 * k) * group b), rest) := by
  rw [read64, decode_of_not_continues hb]
  have hle : (b :: rest).length - rest.length + k ≤ 10 := by
    rw [List.length_cons]
    omega
  exact if_pos hle

theorem read64_ten (r : Nat) (stream : List UInt8) :
    read64 10 r stream = .error "varint overflow" := by
  rw [read64]
  cases hdec : decode stream with
  | none =>
      have hge : ¬ stream.length + 10 < 10 := by omega
      exact if_neg hge
  | some p =>
      have hlt := length_lt_of_decode hdec
      have hgt : ¬ stream.length - p.2.length + 10 ≤ 10 := by omega
      exact if_neg hgt

theorem pbDecodeVarintLoop_eq {k : Nat} (hk : k ≤ 10) {result : BitVec 64}
    (hr : result.toNat < 2 ^ (7 * k)) (stream : List UInt8) :
    pbDecodeVarintLoop (7 * k) result stream
      = read64 k result.toNat stream := by
  induction stream generalizing k result with
  | nil =>
      rw [pbDecodeVarintLoop, read64]
      have hiff : 64 ≤ 7 * k ↔ ¬ ([] : List UInt8).length + k < 10 := by
        rw [List.length_nil]
        omega
      show _ = if _ then _ else _
      by_cases h : 64 ≤ 7 * k
      · rw [if_pos h, if_neg (hiff.mp h)]
      · rw [if_neg h, if_pos (Classical.not_not.mp fun hn => h (hiff.mpr hn))]
  | cons b rest ih =>
      rw [pbDecodeVarintLoop]
      by_cases h64 : 64 ≤ 7 * k
      · have hten : k = 10 := by omega
        subst hten
        rw [if_pos h64, read64_ten]
      · rw [if_neg h64]
        have hval := toNat_or_group (by decide : 7 ≤ 64) b hr
        by_cases hb : Continues b
        · have hnext : 7 * k + 7 = 7 * (k + 1) := by omega
          simp only [if_pos ((and_80_ne_zero_iff b).mpr hb), hnext]
          rw [ih (by omega) (by rw [hval]; exact add_group_lt hr b 64),
            read64_cons_continues hb]
          refine read64_congr ?_ rest
          rw [hval, Nat.mod_mod]
        · simp only [if_neg fun h => hb ((and_80_ne_zero_iff b).mp h)]
          rw [read64_cons_last (by omega) hb]
          refine congrArg (fun v => Except.ok (v, rest)) ?_
          apply BitVec.eq_of_toNat_eq
          rw [hval, BitVec.toNat_ofNat]

/-- **THE 64-BIT READER** gives every number of at most ten bytes modulo
    `2 ^ 64`, and refuses longer ones. -/
theorem pbDecodeVarint_eq (stream : List UInt8) :
    pbDecodeVarint stream = read64 0 0 stream :=
  pbDecodeVarintLoop_eq (k := 0) (by decide) (by decide) stream

/-- In particular what `encode` writes of a number that fits. -/
theorem pbDecodeVarint_encode {n : Nat} (hn : n < 2 ^ 64)
    (rest : List UInt8) :
    pbDecodeVarint (encode n ++ rest) = .ok (BitVec.ofNat 64 n, rest) := by
  rw [pbDecodeVarint_eq, read64, decode_encode]
  have hlen : (encode n).length ≤ 10 :=
    length_encode_le (by decide) (Nat.lt_trans hn (by decide))
  have hle : (encode n ++ rest).length - rest.length + 0 ≤ 10 := by
    rw [List.length_append]
    omega
  simp only [if_pos hle, Nat.mul_zero, Nat.pow_zero, Nat.one_mul, Nat.zero_add]

/-! ## The reader of 32 bits -/

/-- What a turn of the loop leaves: the group added, which past bit 31 is
    nothing. -/
theorem toNat_turn32 {k : Nat} {r : BitVec 32} (b : UInt8)
    (hr : r.toNat < 2 ^ (7 * k)) :
    (if 32 ≤ 7 * k then r
      else r ||| (b &&& 0x7F).toBitVec.setWidth 32 <<< (7 * k)).toNat
      = (r.toNat + 2 ^ (7 * k) * group b) % 2 ^ 32 := by
  by_cases hk : 32 ≤ 7 * k
  · obtain ⟨j, hj⟩ := Nat.exists_eq_add_of_le hk
    rw [if_pos hk, hj, Nat.pow_add, Nat.mul_assoc, Nat.add_mul_mod_self_left,
      Nat.mod_eq_of_lt r.isLt]
  · rw [if_neg hk, toNat_or_group (by decide) b hr]

/-- What the first byte gives. -/
theorem toNat_first32 (b : UInt8) :
    ((b &&& 0x7F).toBitVec.setWidth 32).toNat = group b := by
  have hlt := group_lt b
  rw [BitVec.toNat_setWidth, toNat_and_7F]
  omega

theorem pbDecodeVarint32Loop_sound {k : Nat} {result r : BitVec 32}
    {stream rest : List UInt8} (hr : result.toNat < 2 ^ (7 * k))
    (h : pbDecodeVarint32Loop (7 * k) result stream = .ok (r, rest)) :
    ∃ n, decode stream = some (n, rest)
      ∧ stream.length - rest.length + k ≤ 10
      ∧ r = BitVec.ofNat 32 (result.toNat + 2 ^ (7 * k) * n) := by
  induction stream generalizing k result with
  | nil => exact nomatch h
  | cons b tail ih =>
      have hval := toNat_turn32 b hr
      rw [pbDecodeVarint32Loop] at h
      by_cases hvalid : 32 ≤ 7 * k
          ∧ (64 ≤ 7 * k ∨ ¬ ValidExtension (7 * k) result b)
      · rw [if_pos hvalid] at h
        exact nomatch h
      · rw [if_neg hvalid] at h
        have hk : k ≤ 9 := by
          by_cases h32 : 32 ≤ 7 * k
          · have h64 : ¬ 64 ≤ 7 * k := fun hge => hvalid ⟨h32, Or.inl hge⟩
            omega
          · omega
        by_cases hb : Continues b
        · have hnext : 7 * k + 7 = 7 * (k + 1) := by omega
          rw [if_pos ((and_80_ne_zero_iff b).mpr hb), hnext] at h
          obtain ⟨n, hdec, hlen, hres⟩ :=
            ih (by rw [hval]; exact add_group_lt hr b 32) h
          have hlt := length_lt_of_decode hdec
          refine ⟨group b + 128 * n, ?_, ?_, ?_⟩
          · rw [decode_of_continues hb, hdec]
            rfl
          · rw [List.length_cons]
            omega
          · rw [hres, hval, add_mul_group]
            apply BitVec.eq_of_toNat_eq
            rw [BitVec.toNat_ofNat, BitVec.toNat_ofNat, Nat.mod_add_mod]
        · rw [if_neg fun hc => hb ((and_80_ne_zero_iff b).mp hc)] at h
          by_cases hlast : 7 * k + 7 = 35 ∧ b &&& 0x70 ≠ 0
          · rw [if_pos hlast] at h
            exact nomatch h
          · rw [if_neg hlast] at h
            obtain ⟨hres, hrest⟩ := Prod.mk.inj (Except.ok.inj h)
            subst hrest
            refine ⟨group b, decode_of_not_continues hb _, ?_, ?_⟩
            · rw [List.length_cons]
              omega
            · rw [← hres]
              apply BitVec.eq_of_toNat_eq
              rw [hval, BitVec.toNat_ofNat]

/-- **THE 32-BIT READER** gives what the number on the wire is modulo `2 ^ 32`
    when it gives anything. -/
theorem pbDecodeVarint32_sound {stream rest : List UInt8} {r : BitVec 32}
    (h : pbDecodeVarint32 stream = .ok (r, rest)) :
    ∃ n, decode stream = some (n, rest) ∧ stream.length - rest.length ≤ 10
      ∧ r = BitVec.ofNat 32 n := by
  cases stream with
  | nil => exact nomatch h
  | cons b tail =>
      rw [pbDecodeVarint32] at h
      by_cases hb : Continues b
      · rw [if_neg fun hc => (and_80_eq_zero_iff b).mp hc hb] at h
        have hfirst := toNat_first32 b
        obtain ⟨n, hdec, hlen, hres⟩ := pbDecodeVarint32Loop_sound (k := 1)
          (by rw [hfirst]; exact group_lt b) h
        have hlt := length_lt_of_decode hdec
        refine ⟨group b + 128 * n, ?_, ?_, ?_⟩
        · rw [decode_of_continues hb, hdec]
          rfl
        · rw [List.length_cons]
          omega
        · have hpow : 2 ^ (7 * 1) = 128 := rfl
          rw [hres, hfirst, hpow]
      · rw [if_pos ((and_80_eq_zero_iff b).mpr hb)] at h
        obtain ⟨hres, hrest⟩ := Prod.mk.inj (Except.ok.inj h)
        subst hrest
        refine ⟨group b, decode_of_not_continues hb _, ?_, ?_⟩
        · rw [List.length_cons]
          omega
        · rw [← hres]
          apply BitVec.eq_of_toNat_eq
          rw [Continues] at hb
          rw [BitVec.toNat_setWidth, BitVec.toNat_ofNat, group,
            UInt8.toNat_toBitVec]
          omega

theorem pbDecodeVarint32Loop_complete {k n : Nat} {result : BitVec 32}
    {stream rest : List UInt8} (hdec : decode stream = some (n, rest))
    (hlen : stream.length - rest.length + k ≤ 10)
    (hn : result.toNat + 2 ^ (7 * k) * n < 2 ^ 32)
    (hr : result.toNat < 2 ^ (7 * k)) :
    pbDecodeVarint32Loop (7 * k) result stream
      = .ok (BitVec.ofNat 32 (result.toNat + 2 ^ (7 * k) * n), rest) := by
  induction stream generalizing k n result with
  | nil => exact nomatch hdec
  | cons b tail ih =>
      have hval := toNat_turn32 b hr
      have hshort := length_lt_of_decode hdec
      -- Past bit 31 the rest of the number is zero, and so is the group.
      have hzero : 32 ≤ 7 * k → n = 0 := by
        intro h32
        have hpow : 2 ^ 32 ≤ 2 ^ (7 * k) := Nat.pow_le_pow_right (by decide) h32
        cases n with
        | zero => rfl
        | succ n =>
            rw [Nat.mul_succ] at hn
            omega
      have hgroup : group b ≤ n := by
        rcases decode_cons_eq_some hdec with ⟨-, m, -, rfl⟩ | ⟨-, rfl, -⟩
        · exact Nat.le_add_right _ _
        · exact Nat.le_refl _
      have hextension : ¬ (32 ≤ 7 * k
          ∧ (64 ≤ 7 * k ∨ ¬ ValidExtension (7 * k) result b)) := by
        rintro ⟨h32, h64 | hinvalid⟩
        · rw [List.length_cons] at hlen hshort
          omega
        · have hn0 := hzero h32
          exact hinvalid (Or.inl ((and_7F_eq_zero_iff b).mpr (by omega)))
      rw [pbDecodeVarint32Loop, if_neg hextension]
      rcases decode_cons_eq_some hdec with
        ⟨hb, m, hdec', hsum⟩ | ⟨hb, hsum, rfl⟩
      · have hnext : 7 * k + 7 = 7 * (k + 1) := by omega
        rw [if_pos ((and_80_ne_zero_iff b).mpr hb), hnext]
        have hsplit := add_mul_group result.toNat k (group b) m
        rw [← hsum] at hsplit
        have hfits : (result.toNat + 2 ^ (7 * k) * group b) % 2 ^ 32
            = result.toNat + 2 ^ (7 * k) * group b :=
          Nat.mod_eq_of_lt (by omega)
        have hrec := ih hdec' (k := k + 1)
          (by rw [List.length_cons] at hlen hshort
              have := length_lt_of_decode hdec'
              omega)
          (by rw [hval, hfits, ← hsplit]; exact hn)
          (by rw [hval]; exact add_group_lt hr b 32)
        rw [hrec, hval, hfits, ← hsplit]
      · rw [if_neg fun hc => hb ((and_80_ne_zero_iff b).mp hc)]
        have hlast : ¬ (7 * k + 7 = 35 ∧ b &&& 0x70 ≠ 0) := by
          rintro ⟨h35, h70⟩
          have hk : k = 4 := by omega
          have hbig := (and_70_ne_zero_iff b).mp h70
          subst hk
          omega
        rw [if_neg hlast, hsum]
        refine congrArg (fun v => Except.ok (v, tail)) ?_
        apply BitVec.eq_of_toNat_eq
        rw [hval, BitVec.toNat_ofNat]

/-- A number below `2 ^ 32` is read, in whatever form of ten bytes at most. -/
theorem pbDecodeVarint32_complete {n : Nat} {stream rest : List UInt8}
    (hdec : decode stream = some (n, rest))
    (hlen : stream.length - rest.length ≤ 10) (hn : n < 2 ^ 32) :
    pbDecodeVarint32 stream = .ok (BitVec.ofNat 32 n, rest) := by
  cases stream with
  | nil => exact nomatch hdec
  | cons b tail =>
      rw [pbDecodeVarint32]
      rcases decode_cons_eq_some hdec with
        ⟨hb, m, hdec', hsum⟩ | ⟨hb, hsum, rfl⟩
      · rw [if_neg fun hc => (and_80_eq_zero_iff b).mp hc hb]
        have hfirst := toNat_first32 b
        have hshort := length_lt_of_decode hdec'
        have hloop := @pbDecodeVarint32Loop_complete 1 m
          ((b &&& 0x7F).toBitVec.setWidth 32) tail _ hdec'
          (by rw [List.length_cons] at hlen
              omega)
          (by rw [hfirst]
              show group b + 128 * m < _
              rw [← hsum]
              exact hn)
          (by rw [hfirst]
              exact group_lt b)
        rw [hfirst] at hloop
        have hpow : 2 ^ (7 * 1) = 128 := rfl
        show pbDecodeVarint32Loop (7 * 1) _ _ = _
        rw [hloop, hsum, hpow]
      · rw [if_pos ((and_80_eq_zero_iff b).mpr hb)]
        refine congrArg (fun v => Except.ok (v, tail)) ?_
        apply BitVec.eq_of_toNat_eq
        rw [Continues] at hb
        rw [BitVec.toNat_setWidth, BitVec.toNat_ofNat, hsum, group,
          UInt8.toNat_toBitVec]
        omega

theorem pbDecodeVarint32_encode {n : Nat} (hn : n < 2 ^ 32)
    (rest : List UInt8) :
    pbDecodeVarint32 (encode n ++ rest) = .ok (BitVec.ofNat 32 n, rest) := by
  refine pbDecodeVarint32_complete (decode_encode n rest) ?_ hn
  have hlen : (encode n).length ≤ 10 :=
    length_encode_le (by decide) (Nat.lt_trans hn (by decide))
  rw [List.length_append]
  omega

/-! ### On numbers of more than 32 bits -/

/-- What the reader of 32 bits lets pass from bit 35 on: groups of seven bits that
    are all zeros or all ones, each for itself, and bit 63. -/
def PassesAbove : Nat → Nat → Prop
  | 0, m => m = 1
  | groups + 1, m =>
      (m % 128 = 0 ∨ m % 128 = 127) ∧ PassesAbove groups (m / 128)

/-- The numbers whose shortest form the reader of 32 bits accepts: those of 32
    bits, and those of 64 that it takes for the sign extension of a negative one,
    whatever their bits 32 to 34 are. -/
def Passes32 (n : Nat) : Prop :=
  n < 2 ^ 32 ∨ (n / 2 ^ 31 % 2 = 1 ∧ PassesAbove 4 (n / 2 ^ 35))

instance decidablePassesAbove :
    (groups m : Nat) → Decidable (PassesAbove groups m)
  | 0, m => inferInstanceAs (Decidable (m = 1))
  | groups + 1, m =>
      have := decidablePassesAbove groups (m / 128)
      inferInstanceAs (Decidable (_ ∧ _))

instance (n : Nat) : Decidable (Passes32 n) :=
  inferInstanceAs (Decidable (_ ∨ _))

theorem not_passesAbove_zero (groups : Nat) : ¬ PassesAbove groups 0 := by
  induction groups with
  | zero => exact Nat.zero_ne_one
  | succ groups ih => exact fun h => ih h.2

theorem validExtension_last {bitpos g : Nat} (hpos : bitpos < 63)
    (hg : g < 128) (r : BitVec 32) :
    ValidExtension bitpos r (last g) ↔ g = 0 := by
  rw [ValidExtension, and_7F_eq_zero_iff, group_last hg, if_pos hpos]
  constructor
  · rintro (hzero | ⟨-, hbyte⟩)
    · exact hzero
    · have hvalue := congrArg UInt8.toNat hbyte
      rw [toNat_last hg] at hvalue
      rw [hvalue] at hg
      exact absurd hg (by decide)
  · exact Or.inl

theorem validExtension_more {bitpos g : Nat} (hpos : bitpos < 63)
    (hg : g < 128) (r : BitVec 32) :
    ValidExtension bitpos r (more g) ↔ g = 0 ∨ (r >>> 31 ≠ 0 ∧ g = 127) := by
  rw [ValidExtension, and_7F_eq_zero_iff, group_more hg, if_pos hpos]
  have hbyte : more g = 0xFF ↔ g = 127 := by
    rw [← UInt8.toNat_inj, toNat_more hg]
    show g + 128 = 255 ↔ g = 127
    omega
  rw [hbyte]

theorem validExtension_top (r : BitVec 32) :
    ValidExtension 63 r (last 1) ↔ r >>> 31 ≠ 0 := by
  rw [ValidExtension, and_7F_eq_zero_iff, group_last (by decide)]
  constructor
  · rintro (hzero | ⟨hsign, -⟩)
    · cases hzero
    · exact hsign
  · exact fun hsign => Or.inr ⟨hsign, rfl⟩

/-- From bit 35 on nothing is added, and each byte is tested. -/
theorem pbDecodeVarint32Loop_above (groups : Nat) {bitpos m : Nat}
    (hpos : bitpos + 7 * groups = 63) (hlow : 35 ≤ bitpos) (hm : 0 < m)
    (hlt : m < 2 ^ (7 * groups + 1)) (r : BitVec 32) (rest : List UInt8) :
    pbDecodeVarint32Loop bitpos r (encode m ++ rest)
      = if r >>> 31 ≠ 0 ∧ PassesAbove groups m then .ok (r, rest)
        else .error "varint overflow" := by
  have h32 : 32 ≤ bitpos := by omega
  induction groups generalizing bitpos m with
  | zero =>
      obtain rfl : bitpos = 63 := hpos
      obtain rfl : m = 1 := by omega
      rw [encode_of_lt (by decide)]
      show pbDecodeVarint32Loop 63 r (last 1 :: rest) = _
      rw [pbDecodeVarint32Loop]
      by_cases hsign : r >>> 31 ≠ 0
      · have hvalid : ¬ (32 ≤ 63 ∧ (64 ≤ 63 ∨ ¬ ValidExtension 63 r (last 1))) := by
          rintro ⟨-, hbig | hinvalid⟩
          · exact absurd hbig (by decide)
          · exact hinvalid ((validExtension_top r).mpr hsign)
        have hlast : ¬ last 1 &&& 0x80 ≠ 0 := fun h =>
          not_continues_last (by decide) ((and_80_ne_zero_iff _).mp h)
        have h35 : ¬ (63 + 7 = 35 ∧ last 1 &&& 0x70 ≠ 0) := fun h =>
          absurd h.1 (by decide)
        rw [if_neg hvalid, if_pos h32, if_neg hlast, if_neg h35,
          if_pos ⟨hsign, rfl⟩]
      · have hinvalid : 32 ≤ 63 ∧ (64 ≤ 63 ∨ ¬ ValidExtension 63 r (last 1)) :=
          ⟨by decide, Or.inr fun h => hsign ((validExtension_top r).mp h)⟩
        rw [if_pos hinvalid, if_neg fun h => hsign h.1]
  | succ groups ih =>
      have h63 : bitpos < 63 := by omega
      have hnot64 : ¬ 64 ≤ bitpos := by omega
      by_cases hsmall : m < 128
      · -- the last byte is neither zero nor `0xFF`
        rw [encode_of_lt hsmall]
        show pbDecodeVarint32Loop bitpos r (last m :: rest) = _
        have hinvalid : ¬ ValidExtension bitpos r (last m) := by
          rw [validExtension_last h63 hsmall]
          exact Nat.ne_of_gt hm
        have hnot : ¬ (r >>> 31 ≠ 0 ∧ PassesAbove (groups + 1) m) := by
          rintro ⟨-, -, habove⟩
          rw [Nat.div_eq_of_lt hsmall] at habove
          exact not_passesAbove_zero groups habove
        rw [pbDecodeVarint32Loop, if_pos ⟨h32, Or.inr hinvalid⟩, if_neg hnot]
      · have hg : m % 128 < 128 := Nat.mod_lt m (by decide)
        have hvalid := validExtension_more h63 hg r
        rw [encode_of_le (Nat.not_lt.mp hsmall)]
        show pbDecodeVarint32Loop bitpos r
          (more (m % 128) :: (encode (m / 128) ++ rest)) = _
        have hhigh : m / 128 < 2 ^ (7 * groups + 1) := by
          rw [Nat.div_lt_iff_lt_mul (by decide), Nat.pow_succ, Nat.mul_right_comm,
            show 2 ^ (7 * groups) * 128 = 2 ^ (7 * (groups + 1)) from
              (Nat.pow_add 2 (7 * groups) 7).symm]
          exact hlt
        have hrest := ih (by omega : bitpos + 7 + 7 * groups = 63) (by omega)
          (by omega) hhigh (by omega)
        rw [pbDecodeVarint32Loop]
        by_cases hext : ValidExtension bitpos r (more (m % 128))
        · have hpass : ¬ (32 ≤ bitpos
              ∧ (64 ≤ bitpos ∨ ¬ ValidExtension bitpos r (more (m % 128)))) := by
            rintro ⟨-, hbig | hinvalid⟩
            · exact hnot64 hbig
            · exact hinvalid hext
          rw [if_neg hpass, if_pos h32,
            if_pos ((and_80_ne_zero_iff _).mpr (continues_more hg)), hrest]
          have hiff : (r >>> 31 ≠ 0 ∧ PassesAbove groups (m / 128))
              ↔ (r >>> 31 ≠ 0 ∧ PassesAbove (groups + 1) m) := by
            constructor
            · rintro ⟨hsign, habove⟩
              exact ⟨hsign, (hvalid.mp hext).imp_right And.right, habove⟩
            · rintro ⟨hsign, -, habove⟩
              exact ⟨hsign, habove⟩
          simp only [hiff]
        · have hnot : ¬ (r >>> 31 ≠ 0 ∧ PassesAbove (groups + 1) m) := by
            rintro ⟨hsign, hgroup, -⟩
            exact hext (hvalid.mpr (hgroup.imp_right fun h => ⟨hsign, h⟩))
          rw [if_pos ⟨h32, Or.inr hext⟩, if_neg hnot]

/-- A turn below bit 32 on a byte that another one follows. -/
theorem pbDecodeVarint32Loop_more {k m : Nat} (hlow : 7 * k < 32)
    (hm : 128 ≤ m) {r : BitVec 32} (hr : r.toNat < 2 ^ (7 * k))
    (rest : List UInt8) :
    ∃ r' : BitVec 32,
      pbDecodeVarint32Loop (7 * k) r (encode m ++ rest)
        = pbDecodeVarint32Loop (7 * (k + 1)) r' (encode (m / 128) ++ rest)
      ∧ r'.toNat = (r.toNat + 2 ^ (7 * k) * (m % 128)) % 2 ^ 32 := by
  have hg : m % 128 < 128 := Nat.mod_lt m (by decide)
  have hval := toNat_or_group (by decide : 7 ≤ 32) (more (m % 128)) hr
  rw [group_more hg] at hval
  refine ⟨_, ?_, hval⟩
  rw [encode_of_le hm]
  show pbDecodeVarint32Loop (7 * k) r
    (more (m % 128) :: (encode (m / 128) ++ rest)) = _
  rw [pbDecodeVarint32Loop, if_neg fun h => absurd h.1 (by omega),
    if_neg (by omega : ¬ 32 ≤ 7 * k),
    if_pos ((and_80_ne_zero_iff _).mpr (continues_more hg))]
  rfl

/-- Below bit 32 the groups are added up. -/
theorem pbDecodeVarint32Loop_below (turns : Nat) {k m : Nat} (hk : turns + k = 4)
    {r : BitVec 32} (hr : r.toNat < 2 ^ (7 * k))
    (hbig : 2 ^ 32 ≤ r.toNat + 2 ^ (7 * k) * m)
    (hlt : r.toNat + 2 ^ (7 * k) * m < 2 ^ 64) (rest : List UInt8) :
    pbDecodeVarint32Loop (7 * k) r (encode m ++ rest)
      = if Passes32 (r.toNat + 2 ^ (7 * k) * m) then
          .ok (BitVec.ofNat 32 (r.toNat + 2 ^ (7 * k) * m), rest)
        else .error "varint overflow" := by
  induction turns generalizing k m r with
  | zero =>
      obtain rfl : k = 4 := by omega
      by_cases hsmall : m < 128
      · -- the last byte is at bit 28, with more than its four bits
        have hlast : last m &&& 0x80 = 0 :=
          (and_80_eq_zero_iff _).mpr (not_continues_last hsmall)
        have hmany : 7 * 4 + 7 = 35 ∧ last m &&& 0x70 ≠ 0 := by
          refine ⟨rfl, (and_70_ne_zero_iff _).mpr ?_⟩
          rw [group_last hsmall]
          omega
        have hnot : ¬ Passes32 (r.toNat + 2 ^ (7 * 4) * m) := by
          rintro (hfits | ⟨-, habove⟩)
          · omega
          · rw [Nat.div_eq_of_lt (by omega)] at habove
            exact not_passesAbove_zero 4 habove
        rw [encode_of_lt hsmall, if_neg hnot]
        show pbDecodeVarint32Loop (7 * 4) r (last m :: rest) = _
        rw [pbDecodeVarint32Loop, if_neg fun h => absurd h.1 (by decide),
          if_neg fun h => h hlast, if_pos hmany]
      · obtain ⟨r', hturn, hr'⟩ :=
          pbDecodeVarint32Loop_more (by decide) (Nat.not_lt.mp hsmall) hr rest
        have hres : r' = BitVec.ofNat 32 (r.toNat + 2 ^ (7 * 4) * m) := by
          apply BitVec.eq_of_toNat_eq
          rw [hr', BitVec.toNat_ofNat]
          omega
        have hsign : BitVec.ofNat 32 (r.toNat + 2 ^ (7 * 4) * m) >>> 31 ≠ 0
            ↔ (r.toNat + 2 ^ (7 * 4) * m) / 2 ^ 31 % 2 = 1 := by
          rw [Ne, ← BitVec.toNat_inj, BitVec.toNat_ushiftRight,
            BitVec.toNat_ofNat, Nat.shiftRight_eq_div_pow]
          show ¬ _ = 0 ↔ _
          omega
        have hdiv : (r.toNat + 2 ^ (7 * 4) * m) / 2 ^ 35 = m / 128 := by omega
        have hiff : (BitVec.ofNat 32 (r.toNat + 2 ^ (7 * 4) * m) >>> 31 ≠ 0
              ∧ PassesAbove 4 (m / 128))
            ↔ Passes32 (r.toNat + 2 ^ (7 * 4) * m) := by
          rw [Passes32, hsign, hdiv, or_iff_right (Nat.not_lt.mpr hbig)]
        rw [hturn, hres, pbDecodeVarint32Loop_above 4 rfl (by decide)
          (by omega) (by omega)]
        simp only [hiff]
  | succ turns ih =>
      have hle : 2 ^ (7 * (k + 1)) ≤ 2 ^ 28 :=
        Nat.pow_le_pow_right (by decide) (by omega)
      have hm : 128 ≤ m := by
        refine Nat.not_lt.mp fun hsmall => ?_
        have hshort := add_mul_lt hr hsmall
        omega
      have hgroup : r.toNat + 2 ^ (7 * k) * (m % 128) < 2 ^ (7 * (k + 1)) :=
        add_mul_lt hr (Nat.mod_lt m (by decide))
      obtain ⟨r', hturn, hr'⟩ :=
        pbDecodeVarint32Loop_more (by omega) hm hr rest
      rw [Nat.mod_eq_of_lt (by omega)] at hr'
      have hsum : r'.toNat + 2 ^ (7 * (k + 1)) * (m / 128)
          = r.toNat + 2 ^ (7 * k) * m := by
        rw [hr', ← add_mul_group, Nat.mod_add_div]
      rw [hturn, ih (by omega) (hr' ▸ hgroup) (hsum ▸ hbig) (hsum ▸ hlt), hsum]

/-- A number of more than 32 bits in its shortest form. -/
theorem pbDecodeVarint32_encode_iff {n : Nat} (hn : n < 2 ^ 64)
    (rest : List UInt8) :
    pbDecodeVarint32 (encode n ++ rest)
      = if Passes32 n then .ok (BitVec.ofNat 32 n, rest)
        else .error "varint overflow" := by
  by_cases hsmall : n < 2 ^ 32
  · have hfits : Passes32 n := Or.inl hsmall
    rw [pbDecodeVarint32_encode hsmall, if_pos hfits]
  · have hg : n % 128 < 128 := Nat.mod_lt n (by decide)
    have hcontinues := continues_more hg
    have hfirst := toNat_first32 (more (n % 128))
    rw [group_more hg] at hfirst
    have hsplit : n % 128 + 2 ^ (7 * 1) * (n / 128) = n := Nat.mod_add_div n 128
    have hloop := @pbDecodeVarint32Loop_below 3 1 (n / 128) rfl
      ((more (n % 128) &&& 0x7F).toBitVec.setWidth 32)
      (by rw [hfirst]; exact hg) (by rw [hfirst]; omega) (by rw [hfirst]; omega)
      rest
    rw [hfirst, hsplit] at hloop
    rw [encode_of_le (by omega)]
    show pbDecodeVarint32 (more (n % 128) :: (encode (n / 128) ++ rest)) = _
    rw [pbDecodeVarint32,
      if_neg fun h => (and_80_eq_zero_iff _).mp h hcontinues]
    exact hloop

/-- **THE TWO READERS**: what the short one accepts the long one accepts, to the
    same byte and with the same low half; and a number below `2 ^ 32` the short
    one accepts exactly in forms of ten bytes at most. -/
theorem varintReaders_agree (stream : List UInt8) :
    (∀ r rest, pbDecodeVarint32 stream = .ok (r, rest) →
      ∃ v, pbDecodeVarint stream = .ok (v, rest) ∧ r = v.setWidth 32)
    ∧ ∀ n rest, decode stream = some (n, rest) → n < 2 ^ 32 →
      (pbDecodeVarint32 stream = .ok (BitVec.ofNat 32 n, rest)
        ↔ stream.length - rest.length ≤ 10) := by
  constructor
  · intro r rest h
    obtain ⟨n, hdec, hlen, hres⟩ := pbDecodeVarint32_sound h
    refine ⟨BitVec.ofNat 64 n, ?_, ?_⟩
    · rw [pbDecodeVarint_eq, read64, hdec]
      simp only [Nat.add_zero, if_pos hlen, Nat.mul_zero, Nat.pow_zero,
        Nat.one_mul, Nat.zero_add]
    · rw [hres]
      apply BitVec.eq_of_toNat_eq
      rw [BitVec.toNat_setWidth, BitVec.toNat_ofNat, BitVec.toNat_ofNat]
      omega
  · intro n rest hdec hn
    constructor
    · intro h
      obtain ⟨n', hdec', hlen, -⟩ := pbDecodeVarint32_sound h
      exact hlen
    · intro hlen
      exact pbDecodeVarint32_complete hdec hlen hn

/-- The converse of the first half fails: bits 32 to 34 are lost when they are
    not in the last byte. -/
example : pbDecodeVarint32 [0x80, 0x80, 0x80, 0x80, 0xF0, 0x00] = .ok (0, [])
    ∧ pbDecodeVarint [0x80, 0x80, 0x80, 0x80, 0xF0, 0x00]
      = .ok (0x700000000, []) := by
  constructor <;> rfl

/-! ## The writer -/

theorem eq_last {b : UInt8} (h : b.toNat < 128) : b = last b.toNat := by
  apply UInt8.toNat_inj.mp
  rw [toNat_last h]

theorem or_80 {b : UInt8} (h : b.toNat < 128) : b ||| 0x80 = more b.toNat := by
  have hor : ∀ v : BitVec 8, v.toNat < 128 → (v ||| 128#8).toNat = v.toNat + 128 := by
    decide +kernel
  apply UInt8.toNat_inj.mp
  rw [toNat_more h]
  exact hor b.toBitVec h

/-- The byte in hand: the seven bits at the bottom of a word. -/
theorem toNat_lowBits (x : BitVec 32) :
    (⟨(x &&& 0x7F).setWidth 8⟩ : UInt8).toNat = x.toNat % 128 := by
  have hand : (x &&& 0x7F#32).toNat = x.toNat % 128 := by
    rw [BitVec.toNat_and]
    exact Nat.and_two_pow_sub_one_eq_mod x.toNat 7
  show ((x &&& 0x7F#32).setWidth 8).toNat = _
  rw [BitVec.toNat_setWidth, hand]
  omega

theorem toNat_shiftRight_seven (x : BitVec 32) :
    (x >>> 7).toNat = x.toNat / 128 := by
  rw [BitVec.toNat_ushiftRight, Nat.shiftRight_eq_div_pow]

theorem toNat_pos_of_ne_zero {x : BitVec 32} (h : x ≠ 0) : 0 < x.toNat :=
  Nat.pos_of_ne_zero fun h0 => h (BitVec.eq_of_toNat_eq h0)

/-- A word and the byte in front of it: one turn of either loop. -/
theorem byte_and_word (x : BitVec 32) :
    (⟨(x &&& 0x7F).setWidth 8⟩ : UInt8).toNat + 128 * (x >>> 7).toNat
      = x.toNat := by
  rw [toNat_lowBits, toNat_shiftRight_seven]
  omega

theorem lowBits_lt (x : BitVec 32) :
    (⟨(x &&& 0x7F).setWidth 8⟩ : UInt8).toNat < 128 := by
  rw [toNat_lowBits]
  omega

theorem shiftRight_seven_lt {x : BitVec 32} {k : Nat}
    (h : x.toNat < 128 ^ (k + 1)) : (x >>> 7).toNat < 128 ^ k := by
  rw [toNat_shiftRight_seven]
  rw [Nat.pow_succ] at h
  omega

/-- The first loop, when there is no high half. -/
theorem varint32LowLoop_zero (turns : Nat) {byte : UInt8} {low : BitVec 32}
    (hbyte : byte.toNat < 128) (hlow : low.toNat < 128 ^ turns) :
    (varint32LowLoop 0 turns byte low).1
        ++ [(varint32LowLoop 0 turns byte low).2]
      = encode (byte.toNat + 128 * low.toNat) := by
  induction turns generalizing byte low with
  | zero =>
      rw [Nat.pow_zero] at hlow
      have h0 : low.toNat = 0 := by omega
      rw [h0, Nat.mul_zero, Nat.add_zero, encode_of_lt hbyte]
      exact congrArg (fun b => [b]) (eq_last hbyte)
  | succ turns ih =>
      rw [varint32LowLoop]
      by_cases h : low = 0
      · have hcond : ¬ (low ≠ 0 ∨ (0 : BitVec 32) ≠ 0) := by simp [h]
        rw [if_neg hcond, h]
        show [byte] = encode byte.toNat
        rw [encode_of_lt hbyte, ← eq_last hbyte]
      · rw [if_pos (Or.inl h), encode_add_mul hbyte (toNat_pos_of_ne_zero h),
          or_80 hbyte]
        have hrec := ih (lowBits_lt low) (shiftRight_seven_lt hlow)
        rw [byte_and_word] at hrec
        exact congrArg (more byte.toNat :: ·) hrec

/-- The first loop, in front of whatever the high half gives: it takes all its
    turns and leaves the top bits in hand. -/
theorem varint32LowLoop_high {high : BitVec 32} (hhigh : high ≠ 0) (turns : Nat)
    {byte : UInt8} {low : BitVec 32} (hbyte : byte.toNat < 128)
    (hlow : low.toNat < 128 ^ turns) {x : Nat} (hx : 0 < x) :
    (varint32LowLoop high turns byte low).2.toNat
        = (byte.toNat + 128 * low.toNat) / 128 ^ turns
      ∧ (varint32LowLoop high turns byte low).1
          ++ encode ((varint32LowLoop high turns byte low).2.toNat + x)
        = encode (byte.toNat + 128 * low.toNat + 128 ^ turns * x) := by
  induction turns generalizing byte low with
  | zero =>
      rw [Nat.pow_zero] at hlow
      have h0 : low.toNat = 0 := by omega
      rw [h0, Nat.pow_zero, Nat.one_mul, Nat.div_one]
      exact ⟨rfl, rfl⟩
  | succ turns ih =>
      have hrec := ih (lowBits_lt low) (shiftRight_seven_lt hlow)
      rw [byte_and_word] at hrec
      rw [varint32LowLoop, if_pos (Or.inr hhigh)]
      refine ⟨?_, ?_⟩
      · show (varint32LowLoop high turns _ _).2.toNat = _
        rw [hrec.1, Nat.pow_succ, Nat.mul_comm (128 ^ turns) 128,
          ← Nat.div_div_eq_div_mul]
        refine congrArg (· / 128 ^ turns) ?_
        omega
      · have hpos : 0 < low.toNat + 128 ^ turns * x :=
          Nat.lt_of_lt_of_le (Nat.mul_pos (Nat.pow_pos (by decide)) hx)
            (Nat.le_add_left _ _)
        have hsum : byte.toNat + 128 * low.toNat + 128 ^ (turns + 1) * x
            = byte.toNat + 128 * (low.toNat + 128 ^ turns * x) := by
          rw [Nat.pow_succ, Nat.mul_comm (128 ^ turns) 128, Nat.mul_add,
            Nat.mul_assoc, Nat.add_assoc]
        rw [hsum, encode_add_mul hbyte hpos, ← hrec.2, or_80 hbyte]
        rfl

/-- The second loop. -/
theorem varint32HighLoop_eq (room : Nat) {byte : UInt8} {high : BitVec 32}
    (hbyte : byte.toNat < 128) (hhigh : high.toNat < 128 ^ room) :
    varint32HighLoop room byte high = encode (byte.toNat + 128 * high.toNat) := by
  induction room generalizing byte high with
  | zero =>
      rw [Nat.pow_zero] at hhigh
      have h0 : high.toNat = 0 := by omega
      rw [h0, Nat.mul_zero, Nat.add_zero, encode_of_lt hbyte]
      exact congrArg (fun b => [b]) (eq_last hbyte)
  | succ room ih =>
      rw [varint32HighLoop]
      by_cases h : high = 0
      · rw [if_neg (fun hn => hn h), h]
        show [byte] = encode byte.toNat
        rw [encode_of_lt hbyte, ← eq_last hbyte]
      · rw [if_pos h, encode_add_mul hbyte (toNat_pos_of_ne_zero h),
          or_80 hbyte, ih (lowBits_lt high) (shiftRight_seven_lt hhigh),
          byte_and_word]

/-- The byte in hand takes three bits of the high half. -/
theorem toNat_or_high {f : UInt8} (hf : f.toNat < 16) (high : BitVec 32) :
    (f ||| ⟨((high &&& 0x07) <<< 4).setWidth 8⟩).toNat
      = f.toNat + 16 * (high.toNat % 8) := by
  have hand : (high &&& 0x07#32).toNat = high.toNat % 8 := by
    rw [BitVec.toNat_and]
    exact Nat.and_two_pow_sub_one_eq_mod high.toNat 3
  have hshift : ((high &&& 0x07#32) <<< 4).setWidth 8
      = ((high &&& 0x07#32).setWidth 8) <<< 4 := by
    apply BitVec.eq_of_toNat_eq
    rw [BitVec.toNat_setWidth, BitVec.toNat_shiftLeft, BitVec.toNat_shiftLeft,
      BitVec.toNat_setWidth, hand, Nat.shiftLeft_eq, Nat.shiftLeft_eq]
    omega
  show (f.toBitVec ||| ((high &&& 0x07#32) <<< 4).setWidth 8).toNat = _
  rw [hshift, toNat_or_shiftLeft _ hf, BitVec.toNat_setWidth, hand]
  show (f.toNat + _) % _ = _
  omega

/-- **THE SPLIT WRITER** makes of the two halves of a number what the plain
    encoding makes of the number. -/
theorem varint32Buffer_eq (low high : BitVec 32) :
    varint32Buffer low high = encode (low.toNat + 2 ^ 32 * high.toNat) := by
  have hlow : (low >>> 7).toNat < 128 ^ 4 := by
    rw [toNat_shiftRight_seven]
    have := low.isLt
    omega
  rw [varint32Buffer]
  by_cases h : high = 0
  · subst h
    have hfront := varint32LowLoop_zero 4 (lowBits_lt low) hlow
    rw [byte_and_word] at hfront
    exact hfront
  · rw [if_pos h]
    have hpos : 0 < 16 * high.toNat :=
      Nat.mul_pos (by decide) (toNat_pos_of_ne_zero h)
    obtain ⟨hhand, hfront⟩ :=
      varint32LowLoop_high h 4 (lowBits_lt low) hlow hpos
    rw [byte_and_word] at hhand hfront
    have hf : (varint32LowLoop high 4 ⟨(low &&& 0x7F).setWidth 8⟩
        (low >>> 7)).2.toNat < 16 := by
      rw [hhand]
      have := low.isLt
      omega
    have hbyte := toNat_or_high hf high
    have hrest : (high >>> 3).toNat = high.toNat / 8 := by
      rw [BitVec.toNat_ushiftRight, Nat.shiftRight_eq_div_pow]
    rw [varint32HighLoop_eq 5 (by omega) (by rw [hrest]; omega), hbyte, hrest]
    have hsum : ∀ f : Nat, f + 16 * (high.toNat % 8) + 128 * (high.toNat / 8)
        = f + 16 * high.toNat := by
      intro f
      omega
    rw [hsum, hfront]
    refine congrArg encode ?_
    omega

theorem pbDecodeVarint32_shortens {stream rest : List UInt8} {r : BitVec 32}
    (h : pbDecodeVarint32 stream = .ok (r, rest)) :
    rest.length < stream.length := by
  obtain ⟨n, hdec, -⟩ := pbDecodeVarint32_sound h
  exact length_lt_of_decode hdec

theorem pbDecodeVarint_shortens {stream rest : List UInt8} {v : BitVec 64}
    (h : pbDecodeVarint stream = .ok (v, rest)) :
    rest.length < stream.length := by
  rw [pbDecodeVarint_eq, read64] at h
  cases hdec : decode stream with
  | none =>
      rw [hdec] at h
      by_cases hlen : stream.length + 0 < 10
      · simp only [if_pos hlen] at h
        exact nomatch h
      · simp only [if_neg hlen] at h
        exact nomatch h
  | some p =>
      rw [hdec] at h
      by_cases hlen : stream.length - p.2.length + 0 ≤ 10
      · simp only [if_pos hlen] at h
        have hrest : p.2 = rest := congrArg Prod.snd (Except.ok.inj h)
        rw [← hrest]
        exact length_lt_of_decode hdec
      · simp only [if_neg hlen] at h
        exact nomatch h

end PbVarint
