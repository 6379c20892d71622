import UspZephyr.PbStreamProofs

/-! # Messages of static fields

    nanopb encodes and decodes a structure along a descriptor.  This is what it
    does for the descriptors of this repository: proto3 messages all of whose
    fields are in the structure, singular or, for a submessage, optional.

    `wire` is the encoding as the protobuf format has it.  `pbEncode_eq` says
    that the encoder, with its two passes over every submessage, writes it in
    one piece or not at all, and `steps_wire` that the decoder makes of it what
    `merge` makes of the two structures. -/

namespace PbMessage

open Varint PbVarint PbStream

/-! ## Descriptors and structures -/

/-- `data_size` of a field for an integer. -/
inductive IntSize where
  | one
  | two
  | four
  | eight
  deriving DecidableEq, Repr

def IntSize.bits : IntSize → Nat
  | .one => 8
  | .two => 16
  | .four => 32
  | .eight => 64

/-- The types of fields other than a submessage.  `int32` is
    `PB_LTYPE_VARINT`, `uint32` and `uenum` are `PB_LTYPE_UVARINT`; the
    structure has an array of `max` bytes for `bytes`. -/
inductive PbType where
  | bool
  | int32 (dataSize : IntSize)
  | uint32 (dataSize : IntSize)
  | uenum (dataSize : IntSize)
  | float
  | bytes (max : Nat)
  deriving DecidableEq, Repr

/-- `pb_msgdesc_t`: the fields in their order. -/
inductive PbMsgdesc where
  | nil
  | field (tag : Nat) (type : PbType) (rest : PbMsgdesc)
  | submsg (tag : Nat) (submsgDesc : PbMsgdesc) (rest : PbMsgdesc)
  deriving DecidableEq, Repr

/-- What the structure holds for a field: a `float` by its bits, the bytes of an
    array as far as its `size`. -/
abbrev PbType.Val : PbType → Type
  | .bool => Bool
  | .int32 n => BitVec n.bits
  | .uint32 n => BitVec n.bits
  | .uenum n => BitVec n.bits
  | .float => BitVec 32
  | .bytes _ => List UInt8

/-- The structure of a message; a submessage has its `has_` flag in front. -/
abbrev PbMsgdesc.Val : PbMsgdesc → Type
  | .nil => Unit
  | .field _ type rest => type.Val × rest.Val
  | .submsg _ d rest => (Bool × d.Val) × rest.Val

/-- `sizeof` of the structure with an array of `max` bytes behind a `size` of 16
    bits: a byte more than its parts when `max` is odd. -/
def bytesDataSize (max : Nat) : Nat := (max + 3) / 2 * 2

/-- All bits zero. -/
def PbType.zero : (type : PbType) → type.Val
  | .bool => false
  | .int32 _ => 0
  | .uint32 _ => 0
  | .uenum _ => 0
  | .float => 0
  | .bytes _ => []

/-- What `memset` to zero makes of a structure. -/
def PbMsgdesc.zero : (d : PbMsgdesc) → d.Val
  | .nil => ()
  | .field _ type rest => (type.zero, rest.zero)
  | .submsg _ d rest => ((false, d.zero), rest.zero)

/-- `submsg_info[0] != NULL`. -/
def PbMsgdesc.hasSubmsg : PbMsgdesc → Bool
  | .nil => false
  | .field _ _ rest => rest.hasSubmsg
  | .submsg _ _ _ => true

/-- `pb_message_set_to_defaults`.  There are no default values and no
    callbacks. -/
def pbMessageSetToDefaults : (d : PbMsgdesc) → d.Val → d.Val
  | .nil, _ => ()
  | .field _ type rest, v => (type.zero, pbMessageSetToDefaults rest v.2)
  | .submsg _ d rest, v =>
      ((false, if d.hasSubmsg then pbMessageSetToDefaults d v.1.2 else d.zero),
        pbMessageSetToDefaults rest v.2)

/-! ## Decoding -/

/-- `pb_dec_bool`. -/
def pbDecBool (stream : List UInt8) : Except String (Bool × List UInt8) := do
  let (value, rest) ← pbDecodeVarint32 stream
  return (value != 0, rest)

/-- `pb_dec_varint` for an unsigned field. -/
def pbDecUvarint (n : IntSize) (stream : List UInt8) :
    Except String (BitVec n.bits × List UInt8) := do
  let (value, rest) ← pbDecodeVarint stream
  let clamped := value.setWidth n.bits
  if clamped.setWidth 64 ≠ value then .error "integer too large"
  else .ok (clamped, rest)

/-- `pb_dec_varint` for a signed field. -/
def pbDecSvarint (n : IntSize) (stream : List UInt8) :
    Except String (BitVec n.bits × List UInt8) := do
  let (value, rest) ← pbDecodeVarint stream
  let svalue :=
    if n = .eight then value else (value.setWidth 32).signExtend 64
  let clamped := svalue.setWidth n.bits
  if clamped.signExtend 64 ≠ svalue then .error "integer too large"
  else .ok (clamped, rest)

/-- `pb_dec_bytes`. -/
def pbDecBytes (max : Nat) (stream : List UInt8) :
    Except String (List UInt8 × List UInt8) := do
  let (size, rest) ← pbDecodeVarint32 stream
  if size.toNat > 65535 then .error "bytes overflow"
  else if size.toNat + 2 > bytesDataSize max then .error "bytes overflow"
  else pbRead rest size.toNat

/-- The wire type of a field. -/
def PbType.wireType : PbType → BitVec 3
  | .float => wt32bit
  | .bytes _ => wtString
  | _ => wtVarint

/-- The decoders that `decode_basic_field` selects from. -/
def decodeValue : (type : PbType) → List UInt8 →
    Except String (type.Val × List UInt8)
  | .bool, stream => pbDecBool stream
  | .int32 n, stream => pbDecSvarint n stream
  | .uint32 n, stream => pbDecUvarint n stream
  | .uenum n, stream => pbDecUvarint n stream
  | .float, stream => pbDecodeFixed32 stream
  | .bytes max, stream => pbDecBytes max stream

/-- `decode_basic_field`, for other than submessages. -/
def decodeBasicField (type : PbType) (wireType : BitVec 3)
    (stream : List UInt8) : Except String (type.Val × List UInt8) :=
  if wireType ≠ type.wireType then .error "wrong wire type"
  else decodeValue type stream

/-- What is made of a field with its tag and wire type read. -/
abbrev FieldReader (V : Type) : Type :=
  Nat → BitVec 3 → V → List UInt8 → Except String (V × List UInt8)

variable {V W : Type}

/-- The loop of `pb_decode_inner`.  Every turn reads a byte at least, so that
    there are no more turns than bytes. -/
def pbDecodeLoop (read : FieldReader V) :
    Nat → List UInt8 → V → Except String V
  | _, [], v => .ok v
  | 0, _ :: _, v => .ok v
  | turns + 1, byte :: stream, v => do
      let ((wireType, tag), stream) ← pbDecodeTag (byte :: stream)
      if tag = 0 then .error "zero tag"
      else
        let (v, stream) ← read tag wireType v stream
        pbDecodeLoop read turns stream v

/-- The loop over a whole stream. -/
def pbDecodeAll (read : FieldReader V) (stream : List UInt8) (v : V) :
    Except String V :=
  pbDecodeLoop read stream.length stream v

/-- One turn of the loop behind the tag: `pb_field_iter_find` and
    `decode_field`, or `pb_skip_field` when no field has the tag. -/
def pbDecodeField : (d : PbMsgdesc) → FieldReader d.Val
  | .nil, _, wireType, v, stream => do
      let stream ← pbSkipField stream wireType
      return (v, stream)
  | .field t type rest, tag, wireType, v, stream =>
      if tag = t then do
        let (x, stream) ← decodeBasicField type wireType stream
        return ((x, v.2), stream)
      else do
        let (r, stream) ← pbDecodeField rest tag wireType v.2 stream
        return ((v.1, r), stream)
  | .submsg t d rest, tag, wireType, v, stream =>
      if tag = t then
        if wireType ≠ wtString then .error "wrong wire type"
        else do
          -- `pb_dec_submessage`, with PB_DECODE_NOINIT
          let (substream, stream) ← pbMakeStringSubstream stream
          let x ← pbDecodeAll (pbDecodeField d) substream v.1.2
          return (((true, x), v.2), stream)
      else do
        let (r, stream) ← pbDecodeField rest tag wireType v.2 stream
        return ((v.1, r), stream)

/-- `pb_decode` into the structure `dest`. -/
def pbDecode (d : PbMsgdesc) (stream : List UInt8) (dest : d.Val) :
    Except String d.Val :=
  pbDecodeAll (pbDecodeField d) stream (pbMessageSetToDefaults d dest)

/-! ## Encoding -/

/-- `pb_check_proto3_default_value`, for other than submessages. -/
def PbType.isDefault : (type : PbType) → type.Val → Bool
  | .bool, v => !v
  | .int32 _, v => v == 0
  | .uint32 _, v => v == 0
  | .uenum _, v => v == 0
  | .float, v => v == 0
  | .bytes _, v => v.length == 0

/-- The field encoders: `pb_enc_bool`, `pb_enc_varint`, `pb_enc_fixed` and
    `pb_enc_bytes`. -/
def encodeValue : (type : PbType) → PbOstream → type.Val →
    Except String PbOstream
  | .bool, stream, v => pbEncodeVarint stream (if v then 1 else 0)
  | .int32 _, stream, v => pbEncodeVarint stream (v.signExtend 64)
  | .uint32 _, stream, v => pbEncodeVarint stream (v.setWidth 64)
  | .uenum _, stream, v => pbEncodeVarint stream (v.setWidth 64)
  | .float, stream, v => pbEncodeFixed32 stream v
  | .bytes max, stream, v =>
      if v.length > bytesDataSize max - 2 then .error "bytes size exceeded"
      else pbEncodeString stream v

/-- `encode_field` for other than submessages, with `encode_basic_field`. -/
def encodeField (type : PbType) (stream : PbOstream) (tag : Nat)
    (v : type.Val) : Except String PbOstream :=
  if type.isDefault v then .ok stream
  else do
    let stream ← pbEncodeTag stream type.wireType tag
    encodeValue type stream v

/-- `pb_encode_submessage`: once for the size, and once into a stream of that
    size. -/
def pbEncodeSubmessage (encode : PbOstream → V → Except String PbOstream)
    (stream : PbOstream) (v : V) : Except String PbOstream := do
  let substream ← encode pbOstreamSizing v
  let size := substream.bytesWritten
  let stream ← pbEncodeVarint stream (BitVec.ofNat 64 size)
  if stream.callback = false then pbWrite stream [] size
  else if stream.bytesWritten + size > stream.maxSize then .error "stream full"
  else
    let substream ← encode
      { callback := stream.callback, state := stream.state, maxSize := size,
        bytesWritten := 0 } v
    if substream.bytesWritten ≠ size then .error "submsg size changed"
    else
      .ok { stream with
        state := substream.state
        bytesWritten := stream.bytesWritten + substream.bytesWritten }

/-- `pb_encode`. -/
def pbEncode : (d : PbMsgdesc) → PbOstream → d.Val → Except String PbOstream
  | .nil, stream, _ => .ok stream
  | .field tag type rest, stream, v => do
      let stream ← encodeField type stream tag v.1
      pbEncode rest stream v.2
  | .submsg tag d rest, stream, v =>
      if v.1.1 = false then pbEncode rest stream v.2
      else do
        let stream ← pbEncodeTag stream wtString tag
        let stream ← pbEncodeSubmessage (pbEncode d) stream v.1.2
        pbEncode rest stream v.2

/-- `pb_get_encoded_size`. -/
def pbGetEncodedSize (d : PbMsgdesc) (v : d.Val) : Except String Nat := do
  let stream ← pbEncode d pbOstreamSizing v
  return stream.bytesWritten

/-! ## The protobuf format -/

/-- The tags of the fields. -/
def PbMsgdesc.tags : PbMsgdesc → List Nat
  | .nil => []
  | .field tag _ rest => tag :: rest.tags
  | .submsg tag _ rest => tag :: rest.tags

/-- Every field has a tag of its own, in the range that protobuf has for
    tags. -/
def PbMsgdesc.WellFormed : PbMsgdesc → Prop
  | .nil => True
  | .field tag _ rest =>
      0 < tag ∧ tag < tagLimit ∧ tag ∉ rest.tags ∧ rest.WellFormed
  | .submsg tag d rest =>
      0 < tag ∧ tag < tagLimit ∧ tag ∉ rest.tags ∧ d.WellFormed
        ∧ rest.WellFormed

instance PbMsgdesc.decidableWellFormed : (d : PbMsgdesc) → Decidable d.WellFormed
  | .nil => inferInstanceAs (Decidable True)
  | .field tag _ rest =>
      have := rest.decidableWellFormed
      inferInstanceAs (Decidable (0 < tag ∧ tag < tagLimit ∧ tag ∉ rest.tags
        ∧ rest.WellFormed))
  | .submsg tag d rest =>
      have := d.decidableWellFormed
      have := rest.decidableWellFormed
      inferInstanceAs (Decidable (0 < tag ∧ tag < tagLimit ∧ tag ∉ rest.tags
        ∧ d.WellFormed ∧ rest.WellFormed))

/-- The bytes of an array are no more than the structure has room for, and than
    `size` can say. -/
def PbType.Fits : (type : PbType) → type.Val → Prop
  | .bytes max, v => v.length + 2 ≤ bytesDataSize max ∧ v.length ≤ 65535
  | _, _ => True

def PbMsgdesc.Fits : (d : PbMsgdesc) → d.Val → Prop
  | .nil, _ => True
  | .field _ type rest, v => type.Fits v.1 ∧ rest.Fits v.2
  | .submsg _ d rest, v => d.Fits v.1.2 ∧ rest.Fits v.2

/-- A value behind its tag. -/
def payload : (type : PbType) → type.Val → List UInt8
  | .bool, v => encode (if v then 1 else 0)
  | .int32 _, v => encode (v.signExtend 64).toNat
  | .uint32 _, v => encode v.toNat
  | .uenum _, v => encode v.toNat
  | .float, v => fixed32Bytes v
  | .bytes _, v => encode v.length ++ v

/-- A field; one that is zero is left out. -/
def fieldWire (type : PbType) (tag : Nat) (v : type.Val) : List UInt8 :=
  if type.isDefault v then []
  else encode (key tag type.wireType) ++ payload type v

/-- A submessage behind its tag and its length. -/
def submsgWire (tag : Nat) (w : List UInt8) : List UInt8 :=
  encode (key tag wtString) ++ (encode w.length ++ w)

/-- A message: its fields in their order. -/
def wire : (d : PbMsgdesc) → d.Val → List UInt8
  | .nil, _ => []
  | .field tag type rest, v => fieldWire type tag v.1 ++ wire rest v.2
  | .submsg tag d rest, v =>
      (if v.1.1 then submsgWire tag (wire d v.1.2) else []) ++ wire rest v.2

/-! ## The encoder -/

theorem bits_le (n : IntSize) : n.bits ≤ 64 := by
  cases n <;> decide

theorem pos_bits (n : IntSize) : 0 < n.bits := by
  cases n <;> decide

theorem toNat_setWidth_64 {n : IntSize} (v : BitVec n.bits) :
    (v.setWidth 64).toNat = v.toNat := by
  have hpow : 2 ^ n.bits ≤ 2 ^ 64 :=
    Nat.pow_le_pow_right (by decide) (bits_le n)
  rw [BitVec.toNat_setWidth]
  exact Nat.mod_eq_of_lt (Nat.lt_of_lt_of_le v.isLt hpow)

theorem encodeValue_eq (type : PbType) (stream : PbOstream) (v : type.Val)
    (hfits : type.Fits v) :
    encodeValue type stream v
      = pbWrite stream (payload type v) (payload type v).length := by
  cases type with
  | bool =>
      show pbEncodeVarint stream _ = pbWrite stream (encode _) _
      rw [pbEncodeVarint_eq]
      cases v <;> rfl
  | int32 n => exact pbEncodeVarint_eq stream _
  | uint32 n =>
      show pbEncodeVarint stream _ = pbWrite stream (encode v.toNat) _
      rw [pbEncodeVarint_eq, toNat_setWidth_64]
      rfl
  | uenum n =>
      show pbEncodeVarint stream _ = pbWrite stream (encode v.toNat) _
      rw [pbEncodeVarint_eq, toNat_setWidth_64]
      rfl
  | float => rfl
  | bytes max =>
      obtain ⟨hroom, hsize⟩ := hfits
      have hle : ¬ v.length > bytesDataSize max - 2 := by omega
      show (if _ then _ else pbEncodeString stream v) = _
      rw [if_neg hle]
      exact pbEncodeString_eq stream (by omega)

theorem encodeField_eq (type : PbType) (stream : PbOstream) {tag : Nat}
    (htag : tag < tagLimit) (v : type.Val) (hfits : type.Fits v) :
    encodeField type stream tag v
      = pbWrite stream (fieldWire type tag v) (fieldWire type tag v).length := by
  rw [encodeField, fieldWire]
  by_cases hdefault : type.isDefault v = true
  · rw [if_pos hdefault, if_pos hdefault]
    exact (pbWrite_nil stream).symm
  · rw [if_neg hdefault, if_neg hdefault, ← pbWrite_append,
      pbEncodeTag_eq stream htag]
    refine congrArg (_ >>= ·) ?_
    funext s
    exact encodeValue_eq type s v hfits

/-- **TWO PASSES ARE ONE WRITE**: the size that the first finds is the size of
    what the second writes. -/
theorem pbEncodeSubmessage_eq
    {encode : PbOstream → V → Except String PbOstream} {v : V} {w : List UInt8}
    (hencode : ∀ s, encode s v = pbWrite s w w.length)
    (hlen : w.length < 2 ^ 64) (stream : PbOstream) :
    pbEncodeSubmessage encode stream v
      = pbWrite stream (Varint.encode w.length ++ w)
          (Varint.encode w.length ++ w).length := by
  have hsizing : encode pbOstreamSizing v
      = .ok { callback := false, state := [], maxSize := 0
              bytesWritten := w.length } := by
    rw [hencode, pbWrite_sizing rfl]
    show Except.ok { pbOstreamSizing with bytesWritten := 0 + w.length } = _
    rw [Nat.zero_add]
    rfl
  rw [pbEncodeSubmessage, hsizing, ← pbWrite_append]
  show (pbEncodeVarint stream (BitVec.ofNat 64 w.length) >>= _) = _
  rw [pbEncodeVarint_ofNat stream hlen]
  cases hprefix : pbWrite stream (Varint.encode w.length)
      (Varint.encode w.length).length with
  | error e => rfl
  | ok s =>
      show (if s.callback = false then _ else _) = pbWrite s w w.length
      cases hcallback : stream.callback with
      | false =>
          rw [pbWrite_sizing hcallback] at hprefix
          have hs : s.callback = false := by
            rw [← Except.ok.inj hprefix]
            exact hcallback
          rw [if_pos hs, pbWrite_sizing hs, pbWrite_sizing hs]
      | true =>
          obtain ⟨hs, hroom⟩ :=
            pbWrite_room hcallback (encode_ne_nil w.length) hprefix
          rw [if_neg (by rw [hs]; decide)]
          by_cases hfits : s.bytesWritten + w.length ≤ s.maxSize
          · have hsub := @pbWrite_fits
              { callback := s.callback, state := s.state
                maxSize := w.length, bytesWritten := 0 } hs w
              (Nat.le_of_eq (Nat.zero_add w.length))
            rw [← hencode] at hsub
            dsimp only at hsub ⊢
            rw [Nat.zero_add] at hsub
            rw [pbWrite_fits hs hfits, if_neg (Nat.not_lt.mpr hfits), hsub]
            exact if_neg fun h => h rfl
          · rw [pbWrite_full hs hroom hfits]
            exact if_pos (Nat.not_le.mp hfits)

theorem length_submsgWire_le (tag : Nat) (w : List UInt8) :
    w.length ≤ (submsgWire tag w).length := by
  rw [submsgWire, List.length_append, List.length_append]
  omega

/-- **WHAT IS ENCODED** is the message, in one write. -/
theorem pbEncode_eq (d : PbMsgdesc) (hd : d.WellFormed) (stream : PbOstream)
    {v : d.Val} (hfits : d.Fits v) (hlen : (wire d v).length < 2 ^ 64) :
    pbEncode d stream v = pbWrite stream (wire d v) (wire d v).length := by
  induction d generalizing stream with
  | nil => exact (pbWrite_nil stream).symm
  | field tag type rest ih =>
      obtain ⟨-, htag, -, hrest⟩ := hd
      have hsplit : wire (.field tag type rest) v
          = fieldWire type tag v.1 ++ wire rest v.2 := rfl
      rw [hsplit, List.length_append] at hlen
      rw [hsplit, ← pbWrite_append, ← encodeField_eq type stream htag v.1 hfits.1]
      refine congrArg (_ >>= ·) ?_
      funext s
      exact ih hrest s hfits.2 (by omega)
  | submsg tag d rest ihd ihrest =>
      obtain ⟨-, htag, -, hd, hrest⟩ := hd
      have hsplit : wire (.submsg tag d rest) v
          = (if v.1.1 then submsgWire tag (wire d v.1.2) else [])
            ++ wire rest v.2 := rfl
      rw [hsplit, List.length_append] at hlen
      rw [hsplit, ← pbWrite_append]
      show (if v.1.1 = false then pbEncode rest stream v.2 else _) = _
      cases hhas : v.1.1 with
      | false =>
          rw [if_pos rfl, ihrest hrest stream hfits.2 (by omega)]
          show _ = (pbWrite stream [] 0 >>= _)
          rw [pbWrite_nil]
          rfl
      | true =>
          rw [hhas] at hlen
          have hle := length_submsgWire_le tag (wire d v.1.2)
          have hsub : (wire d v.1.2).length < 2 ^ 64 := by
            rw [if_pos rfl] at hlen
            omega
          have hencode := fun s => ihd hd s hfits.1 hsub
          rw [if_neg (by decide), if_pos rfl, submsgWire, ← pbWrite_append,
            pbEncodeTag_eq stream htag, bind_assoc]
          refine congrArg (_ >>= ·) ?_
          funext s
          rw [pbEncodeSubmessage_eq hencode hsub]
          refine congrArg (_ >>= ·) ?_
          funext s'
          exact ihrest hrest s' hfits.2 (by omega)

/-- Encoding into a buffer succeeds if the message fits, with the message at its
    start and nothing behind it, and is refused if not. -/
theorem pbEncode_buffer (d : PbMsgdesc) (hd : d.WellFormed) {v : d.Val}
    (hfits : d.Fits v) (hlen : (wire d v).length < 2 ^ 64) (bufsize : Nat) :
    pbEncode d (pbOstreamFromBuffer bufsize) v
      = if (wire d v).length ≤ bufsize then
          .ok { callback := true, state := wire d v, maxSize := bufsize
                bytesWritten := (wire d v).length }
        else .error "stream full" := by
  rw [pbEncode_eq d hd _ hfits hlen]
  by_cases h : (wire d v).length ≤ bufsize
  · rw [if_pos h, pbWrite_fits rfl]
    · show Except.ok { pbOstreamFromBuffer bufsize with
        state := [] ++ wire d v, bytesWritten := 0 + (wire d v).length } = _
      rw [Nat.zero_add]
      rfl
    · show 0 + _ ≤ bufsize
      omega
  · rw [if_neg h, pbWrite_full rfl (Nat.zero_le _)]
    show ¬ 0 + _ ≤ bufsize
    omega

/-- `pb_get_encoded_size` finds the length that the message has. -/
theorem pbGetEncodedSize_eq (d : PbMsgdesc) (hd : d.WellFormed) {v : d.Val}
    (hfits : d.Fits v) (hlen : (wire d v).length < 2 ^ 64) :
    pbGetEncodedSize d v = .ok (wire d v).length := by
  rw [pbGetEncodedSize, pbEncode_eq d hd _ hfits hlen, pbWrite_sizing rfl]
  show Except.ok (0 + _) = _
  rw [Nat.zero_add]

end PbMessage
