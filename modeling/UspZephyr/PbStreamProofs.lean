import UspZephyr.PbVarintProofs

/-! # Reading and writing protobuf bytes

    The streams of nanopb, with the tags, strings and words that are read from
    them and written to them below the level of a message.

    A stream for output has a buffer or only counts.  Either way two writes are
    one write of both (`pbWrite_append`), so that what is encoded piece by piece
    is a single write in the end. -/

namespace PbStream

open Varint PbVarint

/-! ## Input -/

/-- `pb_read` from a buffer. -/
def pbRead (stream : List UInt8) (count : Nat) :
    Except String (List UInt8 × List UInt8) :=
  if stream.length < count then .error "end-of-stream"
  else .ok (stream.take count, stream.drop count)

/-- `pb_skip_varint`. -/
def pbSkipVarint : List UInt8 → Except String (List UInt8)
  | [] => .error "end-of-stream"
  | byte :: rest => if byte &&& 0x80 ≠ 0 then pbSkipVarint rest else .ok rest

/-- `pb_skip_string`. -/
def pbSkipString (stream : List UInt8) : Except String (List UInt8) := do
  let (length, rest) ← pbDecodeVarint32 stream
  let (_, rest) ← pbRead rest length.toNat
  return rest

/-- `PB_WT_VARINT`. -/
def wtVarint : BitVec 3 := 0

/-- `PB_WT_64BIT`. -/
def wt64bit : BitVec 3 := 1

/-- `PB_WT_STRING`. -/
def wtString : BitVec 3 := 2

/-- `PB_WT_32BIT`. -/
def wt32bit : BitVec 3 := 5

/-- `pb_decode_tag`: the wire type and the tag. -/
def pbDecodeTag (stream : List UInt8) :
    Except String ((BitVec 3 × Nat) × List UInt8) := do
  let (temp, rest) ← pbDecodeVarint32 stream
  return (((temp &&& 7).setWidth 3, (temp >>> 3).toNat), rest)

/-- `pb_skip_field`. -/
def pbSkipField (stream : List UInt8) (wireType : BitVec 3) :
    Except String (List UInt8) :=
  if wireType = wtVarint then pbSkipVarint stream
  else if wireType = wt64bit then do return (← pbRead stream 8).2
  else if wireType = wtString then pbSkipString stream
  else if wireType = wt32bit then do return (← pbRead stream 4).2
  else .error "invalid wire_type"

/-- `pb_make_string_substream`: the bytes of the substream, and what the stream
    continues with once `pb_close_string_substream` has skipped to their end. -/
def pbMakeStringSubstream (stream : List UInt8) :
    Except String (List UInt8 × List UInt8) := do
  let (size, rest) ← pbDecodeVarint32 stream
  if rest.length < size.toNat then .error "parent stream too short"
  else .ok (rest.take size.toNat, rest.drop size.toNat)

/-- `pb_decode_fixed32`: the four bytes as a little-endian word. -/
def pbDecodeFixed32 : List UInt8 → Except String (BitVec 32 × List UInt8)
  | b0 :: b1 :: b2 :: b3 :: rest =>
      .ok ((b0.toBitVec.setWidth 32 <<< 0) ||| (b1.toBitVec.setWidth 32 <<< 8)
        ||| (b2.toBitVec.setWidth 32 <<< 16)
        ||| (b3.toBitVec.setWidth 32 <<< 24), rest)
  | _ => .error "end-of-stream"

/-! ## Output -/

/-- `pb_ostream_t`: `state` is the bytes that are in the buffer, and `callback`
    whether there is a buffer; a sizing stream has none. -/
structure PbOstream where
  callback : Bool
  state : List UInt8
  maxSize : Nat
  bytesWritten : Nat
  deriving DecidableEq, Repr

/-- `pb_ostream_from_buffer`. -/
def pbOstreamFromBuffer (bufsize : Nat) : PbOstream where
  callback := true
  state := []
  maxSize := bufsize
  bytesWritten := 0

/-- `PB_OSTREAM_SIZING`. -/
def pbOstreamSizing : PbOstream where
  callback := false
  state := []
  maxSize := 0
  bytesWritten := 0

/-- `pb_write`; `buf` is a null pointer, here `[]`, when there is no callback to
    read it. -/
def pbWrite (stream : PbOstream) (buf : List UInt8) (count : Nat) :
    Except String PbOstream :=
  if 0 < count ∧ stream.callback = true then
    if stream.bytesWritten + count > stream.maxSize then .error "stream full"
    else
      .ok { stream with
        state := stream.state ++ buf
        bytesWritten := stream.bytesWritten + count }
  else .ok { stream with bytesWritten := stream.bytesWritten + count }

/-- `pb_encode_varint_32`. -/
def pbEncodeVarint32 (stream : PbOstream) (low high : BitVec 32) :
    Except String PbOstream :=
  pbWrite stream (varint32Buffer low high) (varint32Buffer low high).length

/-- `pb_encode_varint`. -/
def pbEncodeVarint (stream : PbOstream) (value : BitVec 64) :
    Except String PbOstream :=
  if value.toNat ≤ 0x7F then pbWrite stream [⟨value.setWidth 8⟩] 1
  else pbEncodeVarint32 stream (value.setWidth 32) ((value >>> 32).setWidth 32)

/-- The four bytes of `pb_encode_fixed32`. -/
def fixed32Bytes (val : BitVec 32) : List UInt8 :=
  [⟨(val &&& 0xFF).setWidth 8⟩, ⟨((val >>> 8) &&& 0xFF).setWidth 8⟩,
    ⟨((val >>> 16) &&& 0xFF).setWidth 8⟩, ⟨((val >>> 24) &&& 0xFF).setWidth 8⟩]

/-- `pb_encode_fixed32`. -/
def pbEncodeFixed32 (stream : PbOstream) (val : BitVec 32) :
    Except String PbOstream :=
  pbWrite stream (fixed32Bytes val) 4

/-- `pb_encode_tag`. -/
def pbEncodeTag (stream : PbOstream) (wireType : BitVec 3) (fieldNumber : Nat) :
    Except String PbOstream :=
  pbEncodeVarint stream
    ((BitVec.ofNat 64 fieldNumber <<< 3) ||| wireType.setWidth 64)

/-- `pb_encode_string`. -/
def pbEncodeString (stream : PbOstream) (buffer : List UInt8) :
    Except String PbOstream := do
  let stream ← pbEncodeVarint stream (BitVec.ofNat 64 buffer.length)
  pbWrite stream buffer buffer.length

/-! ## Output streams -/

/-- Nothing is written of nothing, and nothing is checked. -/
theorem pbWrite_nil (stream : PbOstream) : pbWrite stream [] 0 = .ok stream :=
  if_neg fun h => Nat.lt_irrefl 0 h.1

/-- A sizing stream counts. -/
theorem pbWrite_sizing {stream : PbOstream} (h : stream.callback = false)
    (buf : List UInt8) (count : Nat) :
    pbWrite stream buf count
      = .ok { stream with bytesWritten := stream.bytesWritten + count } := by
  rw [pbWrite, if_neg]
  rintro ⟨-, hcallback⟩
  rw [h] at hcallback
  exact nomatch hcallback

/-- A stream with a buffer takes what fits behind what it has. -/
theorem pbWrite_buffer {stream : PbOstream} (h : stream.callback = true)
    {buf : List UInt8} (hbuf : buf ≠ []) :
    pbWrite stream buf buf.length
      = if stream.bytesWritten + buf.length ≤ stream.maxSize then
          .ok { stream with
            state := stream.state ++ buf
            bytesWritten := stream.bytesWritten + buf.length }
        else .error "stream full" := by
  rw [pbWrite, if_pos ⟨List.length_pos_iff.mpr hbuf, h⟩]
  by_cases hfits : stream.bytesWritten + buf.length ≤ stream.maxSize
  · rw [if_pos hfits, if_neg (Nat.not_lt.mpr hfits)]
  · rw [if_neg hfits, if_pos (Nat.not_le.mp hfits)]

/-- What fits is written, also when it is nothing. -/
theorem pbWrite_fits {stream : PbOstream} (h : stream.callback = true)
    {buf : List UInt8}
    (hfits : stream.bytesWritten + buf.length ≤ stream.maxSize) :
    pbWrite stream buf buf.length
      = .ok { stream with
          state := stream.state ++ buf
          bytesWritten := stream.bytesWritten + buf.length } := by
  by_cases hbuf : buf = []
  · subst hbuf
    rw [List.append_nil]
    exact pbWrite_nil stream
  · rw [pbWrite_buffer h hbuf, if_pos hfits]

/-- What does not fit is refused, except that nothing always fits. -/
theorem pbWrite_full {stream : PbOstream} (h : stream.callback = true)
    (hroom : stream.bytesWritten ≤ stream.maxSize) {buf : List UInt8}
    (hfull : ¬ stream.bytesWritten + buf.length ≤ stream.maxSize) :
    pbWrite stream buf buf.length = .error "stream full" := by
  have hbuf : buf ≠ [] := by
    rintro rfl
    exact hfull hroom
  rw [pbWrite_buffer h hbuf, if_neg hfull]

/-- A stream that has been written to has room for what it has. -/
theorem pbWrite_room {stream s : PbOstream} (h : stream.callback = true)
    {buf : List UInt8} (hbuf : buf ≠ [])
    (hwrite : pbWrite stream buf buf.length = .ok s) :
    s.callback = true ∧ s.bytesWritten ≤ s.maxSize := by
  rw [pbWrite_buffer h hbuf] at hwrite
  by_cases hfits : stream.bytesWritten + buf.length ≤ stream.maxSize
  · rw [if_pos hfits] at hwrite
    rw [← Except.ok.inj hwrite]
    exact ⟨h, hfits⟩
  · rw [if_neg hfits] at hwrite
    exact nomatch hwrite

/-- Two writes are one. -/
theorem pbWrite_append (stream : PbOstream) (a b : List UInt8) :
    (pbWrite stream a a.length >>= fun s => pbWrite s b b.length)
      = pbWrite stream (a ++ b) (a ++ b).length := by
  cases hcallback : stream.callback with
  | false =>
      rw [pbWrite_sizing hcallback, pbWrite_sizing hcallback, List.length_append,
        ← Nat.add_assoc]
      exact @pbWrite_sizing
        { stream with bytesWritten := stream.bytesWritten + a.length }
        hcallback b b.length
  | true =>
      by_cases ha : a = []
      · subst ha
        show (pbWrite stream [] 0 >>= fun s => pbWrite s b b.length) = _
        rw [pbWrite_nil]
        rfl
      · by_cases hb : b = []
        · subst hb
          rw [List.append_nil]
          cases pbWrite stream a a.length with
          | error e => rfl
          | ok s => exact pbWrite_nil s
        · have hab : a ++ b ≠ [] := fun h => ha (List.append_eq_nil_iff.mp h).1
          rw [pbWrite_buffer hcallback ha, pbWrite_buffer hcallback hab,
            List.length_append, ← Nat.add_assoc]
          by_cases hfits : stream.bytesWritten + a.length ≤ stream.maxSize
          · rw [if_pos hfits]
            have hsecond := @pbWrite_buffer
              { stream with
                state := stream.state ++ a
                bytesWritten := stream.bytesWritten + a.length } hcallback _ hb
            rw [List.append_assoc] at hsecond
            exact hsecond
          · have hnot : ¬ stream.bytesWritten + a.length + b.length
                ≤ stream.maxSize := by omega
            rw [if_neg hfits, if_neg hnot]
            rfl

/-- `pb_encode_varint` writes the shortest form of its value. -/
theorem pbEncodeVarint_eq (stream : PbOstream) (value : BitVec 64) :
    pbEncodeVarint stream value
      = pbWrite stream (encode value.toNat) (encode value.toNat).length := by
  rw [pbEncodeVarint]
  by_cases h : value.toNat ≤ 0x7F
  · have hbyte : (⟨value.setWidth 8⟩ : UInt8) = last value.toNat := by
      apply UInt8.toNat_inj.mp
      rw [toNat_last (by omega)]
      show (value.setWidth 8).toNat = _
      rw [BitVec.toNat_setWidth]
      omega
    rw [if_pos h, encode_of_lt (by omega), hbyte]
    rfl
  · have hvalue : (value.setWidth 32).toNat
        + 2 ^ 32 * ((value >>> 32).setWidth 32).toNat = value.toNat := by
      rw [BitVec.toNat_setWidth, BitVec.toNat_setWidth,
        BitVec.toNat_ushiftRight, Nat.shiftRight_eq_div_pow]
      have := value.isLt
      omega
    rw [if_neg h, pbEncodeVarint32, varint32Buffer_eq, hvalue]

/-- A number that fits, written. -/
theorem pbEncodeVarint_ofNat (stream : PbOstream) {n : Nat} (hn : n < 2 ^ 64) :
    pbEncodeVarint stream (BitVec.ofNat 64 n)
      = pbWrite stream (encode n) (encode n).length := by
  rw [pbEncodeVarint_eq, BitVec.toNat_ofNat, Nat.mod_eq_of_lt hn]

/-- **THE WRITER**: a number goes out in ten bytes at most, in the shortest of its
    forms.  The 64-bit reader has it back, and the 32-bit one a number of 32 bits;
    of a longer one it gives the low half when it takes it for a negative number,
    and overflows otherwise. -/
theorem varint_written (value : BitVec 64) :
    ∃ bytes : List UInt8, bytes.length ≤ 10
      ∧ (∀ stream, pbEncodeVarint stream value
          = pbWrite stream bytes bytes.length)
      ∧ (∀ form rest, decode form = some (value.toNat, rest) →
          bytes.length + rest.length ≤ form.length)
      ∧ ∀ rest, pbDecodeVarint (bytes ++ rest) = .ok (value, rest)
          ∧ (value.toNat < 2 ^ 32 →
            pbDecodeVarint32 (bytes ++ rest) = .ok (value.setWidth 32, rest))
          ∧ pbDecodeVarint32 (bytes ++ rest)
            = if Passes32 value.toNat then .ok (value.setWidth 32, rest)
              else .error "varint overflow" := by
  have hshort : ∀ rest, pbDecodeVarint32 (encode value.toNat ++ rest)
      = if Passes32 value.toNat then .ok (value.setWidth 32, rest)
        else .error "varint overflow" := by
    intro rest
    rw [pbDecodeVarint32_encode_iff value.isLt, BitVec.ofNat_toNat]
  refine ⟨encode value.toNat, ?_, fun stream => pbEncodeVarint_eq stream value,
    fun form rest h => length_encode_le_of_decode h,
    fun rest => ⟨?_, ?_, hshort rest⟩⟩
  · exact length_encode_le (by decide)
      (Nat.lt_trans value.isLt (by decide : 2 ^ 64 < 128 ^ 10))
  · rw [pbDecodeVarint_encode value.isLt, BitVec.ofNat_toNat,
      BitVec.setWidth_eq]
  · intro h
    have hpasses : Passes32 value.toNat := Or.inl h
    rw [hshort, if_pos hpasses]

/-- The least number of more than 32 bits, and two negative ones. -/
example : ¬ Passes32 (2 ^ 32) ∧ Passes32 (2 ^ 64 - 1)
    ∧ Passes32 (2 ^ 64 - 2 ^ 31) := by decide

/-! ## Tags, strings and words -/

/-- The number on the wire for a tag and a wire type. -/
def key (tag : Nat) (wireType : BitVec 3) : Nat := 8 * tag + wireType.toNat

/-- Tags are below `2 ^ 29`, so that the key has 32 bits. -/
def tagLimit : Nat := 2 ^ 29

theorem key_lt {tag : Nat} (htag : tag < tagLimit) (wireType : BitVec 3) :
    key tag wireType < 2 ^ 32 := by
  have hwire := wireType.isLt
  rw [tagLimit] at htag
  rw [key]
  omega

theorem pbEncodeTag_eq (stream : PbOstream) {tag : Nat} (htag : tag < tagLimit)
    (wireType : BitVec 3) :
    pbEncodeTag stream wireType tag
      = pbWrite stream (encode (key tag wireType))
          (encode (key tag wireType)).length := by
  have hwire := wireType.isLt
  have hr : (wireType.setWidth 64).toNat < 2 ^ 3 := by
    rw [BitVec.toNat_setWidth]
    omega
  have hkey : (BitVec.ofNat 64 tag <<< 3 ||| wireType.setWidth 64).toNat
      = key tag wireType := by
    rw [tagLimit] at htag
    rw [BitVec.or_comm, toNat_or_shiftLeft _ hr, BitVec.toNat_setWidth,
      BitVec.toNat_ofNat, key]
    omega
  rw [pbEncodeTag, pbEncodeVarint_eq, hkey]

theorem pbDecodeTag_encode {tag : Nat} (htag : tag < tagLimit)
    (wireType : BitVec 3) (rest : List UInt8) :
    pbDecodeTag (encode (key tag wireType) ++ rest)
      = .ok ((wireType, tag), rest) := by
  have hlt := key_lt htag wireType
  have hwire := wireType.isLt
  have htype : ((BitVec.ofNat 32 (key tag wireType)) &&& 7).setWidth 3
      = wireType := by
    apply BitVec.eq_of_toNat_eq
    have hand : (BitVec.ofNat 32 (key tag wireType) &&& 7).toNat
        = (key tag wireType) % 8 := by
      rw [BitVec.toNat_and, BitVec.toNat_ofNat, Nat.mod_eq_of_lt hlt]
      exact Nat.and_two_pow_sub_one_eq_mod _ 3
    rw [BitVec.toNat_setWidth, hand, key]
    omega
  have htagOf : (BitVec.ofNat 32 (key tag wireType) >>> 3).toNat = tag := by
    rw [BitVec.toNat_ushiftRight, Nat.shiftRight_eq_div_pow, BitVec.toNat_ofNat,
      Nat.mod_eq_of_lt hlt, key]
    omega
  rw [pbDecodeTag, pbDecodeVarint32_encode hlt]
  show Except.ok ((_, _), rest) = _
  rw [htype, htagOf]

theorem pbEncodeString_eq (stream : PbOstream) {buffer : List UInt8}
    (hlen : buffer.length < 2 ^ 64) :
    pbEncodeString stream buffer
      = pbWrite stream (encode buffer.length ++ buffer)
          (encode buffer.length ++ buffer).length := by
  rw [← pbWrite_append, pbEncodeString, pbEncodeVarint_ofNat stream hlen]

/-- A string is read as its bytes. -/
theorem pbMakeStringSubstream_encode {buffer : List UInt8}
    (hlen : buffer.length < 2 ^ 32) (rest : List UInt8) :
    pbMakeStringSubstream (encode buffer.length ++ (buffer ++ rest))
      = .ok (buffer, rest) := by
  have hsize : (BitVec.ofNat 32 buffer.length).toNat = buffer.length := by
    rw [BitVec.toNat_ofNat, Nat.mod_eq_of_lt hlen]
  have hlong : ¬ (buffer ++ rest).length < buffer.length := by
    rw [List.length_append]
    omega
  rw [pbMakeStringSubstream, pbDecodeVarint32_encode hlen]
  show (if _ then _ else Except.ok (List.take _ _, List.drop _ _)) = _
  rw [hsize, if_neg hlong, List.take_left, List.drop_left]

theorem toNat_byteOfWord (x : BitVec 32) :
    ((⟨(x &&& 0xFF).setWidth 8⟩ : UInt8).toBitVec.setWidth 32).toNat
      = x.toNat % 256 := by
  have hand : (x &&& 0xFF#32).toNat = x.toNat % 256 := by
    rw [BitVec.toNat_and]
    exact Nat.and_two_pow_sub_one_eq_mod x.toNat 8
  show (((x &&& 0xFF#32).setWidth 8).setWidth 32).toNat = _
  rw [BitVec.toNat_setWidth, BitVec.toNat_setWidth, hand]
  omega

/-- A word is read as it was written. -/
theorem pbDecodeFixed32_fixed32Bytes (val : BitVec 32) (rest : List UInt8) :
    pbDecodeFixed32 (fixed32Bytes val ++ rest) = .ok (val, rest) := by
  have hlt := val.isLt
  have h0 := toNat_byteOfWord val
  have h1 := toNat_byteOfWord (val >>> 8)
  have h2 := toNat_byteOfWord (val >>> 16)
  have h3 := toNat_byteOfWord (val >>> 24)
  rw [BitVec.toNat_ushiftRight, Nat.shiftRight_eq_div_pow] at h1 h2 h3
  refine congrArg (fun v => Except.ok (v, rest)) ?_
  apply BitVec.eq_of_toNat_eq
  rw [BitVec.shiftLeft_zero]
  have s1 := toNat_or_shiftLeft
    ((⟨((val >>> 8) &&& 0xFF).setWidth 8⟩ : UInt8).toBitVec.setWidth 32)
    (k := 8) (r := (⟨(val &&& 0xFF).setWidth 8⟩ : UInt8).toBitVec.setWidth 32)
    (by rw [h0]; omega)
  rw [h0, h1] at s1
  have s2 := toNat_or_shiftLeft
    ((⟨((val >>> 16) &&& 0xFF).setWidth 8⟩ : UInt8).toBitVec.setWidth 32)
    (k := 16) (r := _ ||| _) (by rw [s1]; omega)
  rw [s1, h2] at s2
  have s3 := toNat_or_shiftLeft
    ((⟨((val >>> 24) &&& 0xFF).setWidth 8⟩ : UInt8).toBitVec.setWidth 32)
    (k := 24) (r := _ ||| _) (by rw [s2]; omega)
  rw [s2, h3] at s3
  rw [s3]
  omega

/-! ## What is left of the input -/

theorem pbRead_shortens {stream bytes rest : List UInt8} {count : Nat}
    (h : pbRead stream count = .ok (bytes, rest)) :
    rest.length ≤ stream.length := by
  rw [pbRead] at h
  by_cases hshort : stream.length < count
  · rw [if_pos hshort] at h
    exact nomatch h
  · rw [if_neg hshort] at h
    have hrest : stream.drop count = rest := congrArg Prod.snd (Except.ok.inj h)
    rw [← hrest, List.length_drop]
    exact Nat.sub_le _ _

theorem pbSkipVarint_shortens {stream rest : List UInt8}
    (h : pbSkipVarint stream = .ok rest) : rest.length ≤ stream.length := by
  induction stream with
  | nil => exact nomatch h
  | cons b tail ih =>
      rw [pbSkipVarint] at h
      by_cases hb : b &&& 0x80 ≠ 0
      · rw [if_pos hb] at h
        exact Nat.le_succ_of_le (ih h)
      · rw [if_neg hb] at h
        rw [← Except.ok.inj h]
        exact Nat.le_succ _

/-- A sequence of two succeeds when both do. -/
theorem bind_eq_ok {ε α β : Type} {x : Except ε α} {f : α → Except ε β} {b : β} :
    (x >>= f) = .ok b ↔ ∃ a, x = .ok a ∧ f a = .ok b := by
  cases x with
  | error e => exact ⟨fun h => (nomatch h), fun ⟨_, h, _⟩ => (nomatch h)⟩
  | ok a =>
      constructor
      · intro h
        exact ⟨a, rfl, h⟩
      · rintro ⟨a', ha, h⟩
        rw [Except.ok.inj ha]
        exact h

theorem pbSkipField_shortens {stream rest : List UInt8} {wireType : BitVec 3}
    (h : pbSkipField stream wireType = .ok rest) :
    rest.length ≤ stream.length := by
  rw [pbSkipField] at h
  split at h
  · exact pbSkipVarint_shortens h
  · split at h
    · obtain ⟨⟨bytes, rest'⟩, hread, heq⟩ := bind_eq_ok.mp h
      rw [← Except.ok.inj heq]
      exact pbRead_shortens hread
    · split at h
      · obtain ⟨⟨length, tail⟩, hlength, h⟩ := bind_eq_ok.mp h
        obtain ⟨⟨bytes, rest'⟩, hread, heq⟩ := bind_eq_ok.mp h
        rw [← Except.ok.inj heq]
        exact Nat.le_trans (pbRead_shortens hread)
          (Nat.le_of_lt (pbDecodeVarint32_shortens hlength))
      · split at h
        · obtain ⟨⟨bytes, rest'⟩, hread, heq⟩ := bind_eq_ok.mp h
          rw [← Except.ok.inj heq]
          exact pbRead_shortens hread
        · exact nomatch h

theorem pbDecodeTag_shortens {stream rest : List UInt8} {r : BitVec 3 × Nat}
    (h : pbDecodeTag stream = .ok (r, rest)) : rest.length < stream.length := by
  obtain ⟨⟨temp, tail⟩, htemp, heq⟩ := bind_eq_ok.mp h
  have hrest : tail = rest := congrArg Prod.snd (Except.ok.inj heq)
  rw [← hrest]
  exact pbDecodeVarint32_shortens htemp

theorem pbDecodeFixed32_shortens {stream rest : List UInt8} {v : BitVec 32}
    (h : pbDecodeFixed32 stream = .ok (v, rest)) :
    rest.length ≤ stream.length := by
  match stream, h with
  | b0 :: b1 :: b2 :: b3 :: tail, h =>
      have hrest : tail = rest := congrArg Prod.snd (Except.ok.inj h)
      rw [← hrest]
      show tail.length ≤ tail.length + 4
      omega

theorem pbMakeStringSubstream_shortens {stream sub rest : List UInt8}
    (h : pbMakeStringSubstream stream = .ok (sub, rest)) :
    rest.length ≤ stream.length := by
  obtain ⟨⟨size, tail⟩, hsize, h⟩ := bind_eq_ok.mp h
  have hlt := pbDecodeVarint32_shortens hsize
  dsimp only at h
  by_cases hshort : tail.length < size.toNat
  · rw [if_pos hshort] at h
    exact nomatch h
  · rw [if_neg hshort] at h
    have hrest : tail.drop size.toNat = rest :=
      congrArg Prod.snd (Except.ok.inj h)
    rw [← hrest, List.length_drop]
    omega

end PbStream
