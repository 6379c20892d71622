import UspZephyr.PbMessageProofs

/-! # What the decoder makes of a message

    The decoder reads one field after the other, so what it makes of a stretch
    of fields does not depend on what follows: `Steps` has the stretches, with
    what they do to the structure, and they may be put together.  The encoding of
    a structure is such a stretch, and what it does is `merge`. -/

namespace PbDecode

open Varint PbVarint PbStream PbMessage

variable {V W : Type}

/-! ## The turns of the decoder -/

/-- A field never gives back bytes. -/
def Shortens (read : FieldReader V) : Prop :=
  ∀ tag wireType v stream v' rest,
    read tag wireType v stream = .ok (v', rest) → rest.length ≤ stream.length

/-- Turns beyond the number of bytes make no difference. -/
theorem pbDecodeLoop_turns {read : FieldReader V} (hread : Shortens read)
    {m n : Nat} {stream : List UInt8} (hm : stream.length ≤ m)
    (hn : stream.length ≤ n) (v : V) :
    pbDecodeLoop read m stream v = pbDecodeLoop read n stream v := by
  induction m generalizing n stream v with
  | zero =>
      have hnil : stream = [] := List.eq_nil_of_length_eq_zero (by omega)
      subst hnil
      cases n <;> rfl
  | succ m ih =>
      cases stream with
      | nil => cases n <;> rfl
      | cons b tail =>
          cases n with
          | zero => exact absurd hn (Nat.not_succ_le_zero _)
          | succ n =>
              rw [pbDecodeLoop, pbDecodeLoop]
              cases htag : pbDecodeTag (b :: tail) with
              | error e => rfl
              | ok p =>
                  have hlt := pbDecodeTag_shortens htag
                  show (if p.1.2 = 0 then _ else _)
                    = (if p.1.2 = 0 then _ else _)
                  by_cases hzero : p.1.2 = 0
                  · rw [if_pos hzero, if_pos hzero]
                  · rw [if_neg hzero, if_neg hzero]
                    cases hfield : read p.1.2 p.1.1 v p.2 with
                    | error e => rfl
                    | ok q =>
                        have hle := hread _ _ _ _ _ _ hfield
                        exact ih (by omega) (by omega) q.1

/-- One turn. -/
theorem pbDecodeAll_turn {read : FieldReader V} (hread : Shortens read)
    {stream : List UInt8} (hne : stream ≠ []) (v : V) :
    pbDecodeAll read stream v = (do
      let ((wireType, tag), rest) ← pbDecodeTag stream
      if tag = 0 then .error "zero tag"
      else
        let (v, rest) ← read tag wireType v rest
        pbDecodeAll read rest v) := by
  cases stream with
  | nil => exact absurd rfl hne
  | cons b tail =>
      rw [pbDecodeAll, List.length_cons, pbDecodeLoop]
      cases htag : pbDecodeTag (b :: tail) with
      | error e => rfl
      | ok p =>
          have hlt := pbDecodeTag_shortens htag
          rw [List.length_cons] at hlt
          show (if p.1.2 = 0 then _ else _) = (if p.1.2 = 0 then _ else _)
          by_cases hzero : p.1.2 = 0
          · rw [if_pos hzero, if_pos hzero]
          · rw [if_neg hzero, if_neg hzero]
            cases hfield : read p.1.2 p.1.1 v p.2 with
            | error e => rfl
            | ok q =>
                have hle := hread _ _ _ _ _ _ hfield
                exact pbDecodeLoop_turns hread (by omega) (Nat.le_refl _) q.1

theorem pbDecBool_shortens {stream rest : List UInt8} {v : Bool}
    (h : pbDecBool stream = .ok (v, rest)) : rest.length ≤ stream.length := by
  obtain ⟨⟨value, tail⟩, hvalue, heq⟩ := bind_eq_ok.mp h
  have hrest : tail = rest := congrArg Prod.snd (Except.ok.inj heq)
  rw [← hrest]
  exact Nat.le_of_lt (pbDecodeVarint32_shortens hvalue)

theorem pbDecUvarint_shortens {n : IntSize} {stream rest : List UInt8}
    {v : BitVec n.bits} (h : pbDecUvarint n stream = .ok (v, rest)) :
    rest.length ≤ stream.length := by
  obtain ⟨⟨value, tail⟩, hvalue, h⟩ := bind_eq_ok.mp h
  dsimp only at h
  split at h
  · exact nomatch h
  · have hrest : tail = rest := congrArg Prod.snd (Except.ok.inj h)
    rw [← hrest]
    exact Nat.le_of_lt (pbDecodeVarint_shortens hvalue)

theorem pbDecSvarint_shortens {n : IntSize} {stream rest : List UInt8}
    {v : BitVec n.bits} (h : pbDecSvarint n stream = .ok (v, rest)) :
    rest.length ≤ stream.length := by
  obtain ⟨⟨value, tail⟩, hvalue, h⟩ := bind_eq_ok.mp h
  dsimp only at h
  by_cases hclamped : ((if n = .eight then value
      else (value.setWidth 32).signExtend 64).setWidth n.bits).signExtend 64
      = if n = .eight then value else (value.setWidth 32).signExtend 64
  · rw [if_neg fun hne => hne hclamped] at h
    have hrest : tail = rest := congrArg Prod.snd (Except.ok.inj h)
    rw [← hrest]
    exact Nat.le_of_lt (pbDecodeVarint_shortens hvalue)
  · rw [if_pos hclamped] at h
    exact nomatch h

theorem pbDecBytes_shortens {max : Nat} {stream rest v : List UInt8}
    (h : pbDecBytes max stream = .ok (v, rest)) :
    rest.length ≤ stream.length := by
  obtain ⟨⟨size, tail⟩, hsize, h⟩ := bind_eq_ok.mp h
  dsimp only at h
  split at h
  · exact nomatch h
  · split at h
    · exact nomatch h
    · exact Nat.le_trans (pbRead_shortens h)
        (Nat.le_of_lt (pbDecodeVarint32_shortens hsize))

theorem decodeBasicField_shortens {type : PbType} {wireType : BitVec 3}
    {stream rest : List UInt8} {v : type.Val}
    (h : decodeBasicField type wireType stream = .ok (v, rest)) :
    rest.length ≤ stream.length := by
  rw [decodeBasicField] at h
  split at h
  · exact nomatch h
  · cases type with
    | bool => exact pbDecBool_shortens h
    | int32 n => exact pbDecSvarint_shortens h
    | uint32 n => exact pbDecUvarint_shortens h
    | uenum n => exact pbDecUvarint_shortens h
    | float => exact pbDecodeFixed32_shortens h
    | bytes max => exact pbDecBytes_shortens h

theorem pbDecodeField_shortens (d : PbMsgdesc) : Shortens (pbDecodeField d) := by
  induction d with
  | nil =>
      intro tag wireType v stream v' rest h
      obtain ⟨rest', hskip, heq⟩ := bind_eq_ok.mp h
      have hrest : rest' = rest := congrArg Prod.snd (Except.ok.inj heq)
      rw [← hrest]
      exact pbSkipField_shortens hskip
  | field t type tail ih =>
      intro tag wireType v stream v' rest h
      rw [pbDecodeField] at h
      split at h
      · obtain ⟨⟨x, rest'⟩, hvalue, heq⟩ := bind_eq_ok.mp h
        have hrest : rest' = rest := congrArg Prod.snd (Except.ok.inj heq)
        rw [← hrest]
        exact decodeBasicField_shortens hvalue
      · obtain ⟨⟨x, rest'⟩, hfield, heq⟩ := bind_eq_ok.mp h
        have hrest : rest' = rest := congrArg Prod.snd (Except.ok.inj heq)
        rw [← hrest]
        exact ih _ _ _ _ _ _ hfield
  | submsg t d tail ihd ih =>
      intro tag wireType v stream v' rest h
      rw [pbDecodeField] at h
      split at h
      · split at h
        · exact nomatch h
        · obtain ⟨⟨sub, rest'⟩, hsub, h⟩ := bind_eq_ok.mp h
          obtain ⟨x, -, heq⟩ := bind_eq_ok.mp h
          have hrest : rest' = rest := congrArg Prod.snd (Except.ok.inj heq)
          rw [← hrest]
          exact pbMakeStringSubstream_shortens hsub
      · obtain ⟨⟨x, rest'⟩, hfield, heq⟩ := bind_eq_ok.mp h
        have hrest : rest' = rest := congrArg Prod.snd (Except.ok.inj heq)
        rw [← hrest]
        exact ih _ _ _ _ _ _ hfield

/-! ## Values there and back -/

theorem signExtend_setWidth_signExtend {w m : Nat} (hw : 0 < w) (hwm : w ≤ m)
    (v : BitVec w) :
    ((v.signExtend 64).setWidth m).signExtend 64 = v.signExtend 64 := by
  refine BitVec.eq_of_getLsbD_eq fun i hi => ?_
  simp only [BitVec.getLsbD_signExtend, BitVec.getLsbD_setWidth,
    BitVec.msb_setWidth]
  by_cases him : i < m
  · simp [him, hi]
  · have hiw : ¬ i < w := by omega
    have h64 : m - 1 < 64 := by omega
    have hm : 0 < m := by omega
    by_cases hmw : m - 1 < w
    · -- There is nothing between the two widths: the top bit is the same one.
      have hsame : m - 1 = w - 1 := by omega
      rw [if_neg him, if_neg hiw, if_pos hmw, hsame,
        ← BitVec.msb_eq_getLsbD_last]
      simp [hi, hm, hsame ▸ h64]
    · simp [him, hiw, hi, hm, h64, hmw]

theorem setWidth_signExtend {w n : Nat} (hw : w ≤ n) (v : BitVec w) :
    (v.signExtend n).setWidth w = v := by
  refine BitVec.eq_of_getLsbD_eq fun i hi => ?_
  rw [BitVec.getLsbD_setWidth, BitVec.getLsbD_signExtend, if_pos hi,
    decide_eq_true hi, decide_eq_true (Nat.lt_of_lt_of_le hi hw)]
  rfl

theorem ofNat_toNat_64 (x : BitVec 64) : BitVec.ofNat 64 x.toNat = x :=
  BitVec.ofNat_toNat 64 x ▸ BitVec.setWidth_eq x

theorem pbDecUvarint_encode {n : IntSize} (v : BitVec n.bits)
    (rest : List UInt8) :
    pbDecUvarint n (encode v.toNat ++ rest) = .ok (v, rest) := by
  have hv : v.toNat < 2 ^ 64 := by
    rw [← toNat_setWidth_64 v]
    exact (v.setWidth 64).isLt
  have hofNat : BitVec.ofNat 64 v.toNat = v.setWidth 64 := BitVec.ofNat_toNat 64 v
  have hback : (v.setWidth 64).setWidth n.bits = v := by
    apply BitVec.eq_of_toNat_eq
    rw [BitVec.toNat_setWidth, toNat_setWidth_64, Nat.mod_eq_of_lt v.isLt]
  rw [pbDecUvarint, pbDecodeVarint_encode hv]
  show (if ((BitVec.ofNat 64 v.toNat).setWidth n.bits).setWidth 64
      ≠ BitVec.ofNat 64 v.toNat then _ else Except.ok (_, rest)) = _
  rw [hofNat, hback, if_neg fun h => h rfl]

theorem pbDecSvarint_encode {n : IntSize} (v : BitVec n.bits)
    (rest : List UInt8) :
    pbDecSvarint n (encode (v.signExtend 64).toNat ++ rest) = .ok (v, rest) := by
  have hsvalue : (if n = .eight then v.signExtend 64
      else ((v.signExtend 64).setWidth 32).signExtend 64) = v.signExtend 64 := by
    by_cases hn : n = .eight
    · rw [if_pos hn]
    · have hbits : n.bits ≤ 32 := by
        cases n with
        | eight => exact absurd rfl hn
        | _ => decide
      rw [if_neg hn, signExtend_setWidth_signExtend (pos_bits n) hbits]
  rw [pbDecSvarint, pbDecodeVarint_encode (v.signExtend 64).isLt, ofNat_toNat_64]
  simp only [hsvalue, bind, Except.bind]
  rw [setWidth_signExtend (bits_le n), if_neg fun h => h rfl]

theorem pbDecBytes_encode {max : Nat} {v : List UInt8}
    (hroom : v.length + 2 ≤ bytesDataSize max) (hsize : v.length ≤ 65535)
    (rest : List UInt8) :
    pbDecBytes max (encode v.length ++ (v ++ rest)) = .ok (v, rest) := by
  have hlen : v.length < 2 ^ 32 := by omega
  have htoNat : (BitVec.ofNat 32 v.length).toNat = v.length := by
    rw [BitVec.toNat_ofNat, Nat.mod_eq_of_lt hlen]
  rw [pbDecBytes, pbDecodeVarint32_encode hlen]
  show (if (BitVec.ofNat 32 v.length).toNat > 65535 then _
    else if (BitVec.ofNat 32 v.length).toNat + 2 > bytesDataSize max then _
    else pbRead (v ++ rest) (BitVec.ofNat 32 v.length).toNat) = _
  rw [htoNat, if_neg (Nat.not_lt.mpr hsize), if_neg (Nat.not_lt.mpr hroom), pbRead]
  have hlong : ¬ (v ++ rest).length < v.length := by
    rw [List.length_append]
    omega
  rw [if_neg hlong, List.take_left, List.drop_left]

/-- A value is read as it was written. -/
theorem decodeValue_payload (type : PbType) {v : type.Val} (hfits : type.Fits v)
    (rest : List UInt8) :
    decodeValue type (payload type v ++ rest) = .ok (v, rest) := by
  cases type with
  | bool =>
      show pbDecBool (encode _ ++ rest) = _
      cases v with
      | false =>
          rw [pbDecBool, pbDecodeVarint32_encode (by decide)]
          rfl
      | true =>
          rw [pbDecBool, pbDecodeVarint32_encode (by decide)]
          rfl
  | int32 n => exact pbDecSvarint_encode v rest
  | uint32 n => exact pbDecUvarint_encode v rest
  | uenum n => exact pbDecUvarint_encode v rest
  | float => exact pbDecodeFixed32_fixed32Bytes v rest
  | bytes max =>
      show pbDecBytes max ((encode v.length ++ v) ++ rest) = _
      rw [List.append_assoc]
      exact pbDecBytes_encode hfits.1 hfits.2 rest

/-! ## Stretches of fields -/

/-- The bytes are whole fields, of tags in `P`, that take the structure from the
    one value to the other. -/
inductive Steps (read : FieldReader V) (P : Nat → Prop) :
    List UInt8 → V → V → Prop
  | nil (v : V) : Steps read P [] v v
  | cons {tag : Nat} {wireType : BitVec 3} {bytes w : List UInt8} {v v' v'' : V}
      (hpos : 0 < tag) (htag : tag < tagLimit) (hP : P tag)
      (hread : ∀ rest, read tag wireType v (bytes ++ rest) = .ok (v', rest))
      (hnext : Steps read P w v' v'') :
      Steps read P (encode (key tag wireType) ++ (bytes ++ w)) v v''

namespace Steps

variable {read : FieldReader V} {P Q : Nat → Prop} {a b : List UInt8}
  {v v' v'' : V}

/-- A single field. -/
theorem single {tag : Nat} {wireType : BitVec 3} {bytes : List UInt8}
    (hpos : 0 < tag) (htag : tag < tagLimit) (hP : P tag)
    (hread : ∀ rest, read tag wireType v (bytes ++ rest) = .ok (v', rest)) :
    Steps read P (encode (key tag wireType) ++ bytes) v v' := by
  have h := Steps.cons hpos htag hP hread (Steps.nil v')
  rw [List.append_nil] at h
  exact h

theorem append (ha : Steps read P a v v') (hb : Steps read P b v' v'') :
    Steps read P (a ++ b) v v'' := by
  induction ha with
  | nil v => exact hb
  | cons hpos htag hP hread hnext ih =>
      rw [List.append_assoc, List.append_assoc]
      exact Steps.cons hpos htag hP hread (ih hb)

/-- The same bytes for another reader, of a structure that contains the
    first. -/
theorem map {other : FieldReader W} {f : V → W}
    (hPQ : ∀ tag, P tag → Q tag)
    (hread : ∀ tag wireType v stream v' rest, P tag →
      read tag wireType v stream = .ok (v', rest) →
      other tag wireType (f v) stream = .ok (f v', rest))
    (h : Steps read P a v v') : Steps other Q a (f v) (f v') := by
  induction h with
  | nil v => exact Steps.nil (f v)
  | cons hpos htag hP hfield hnext ih =>
      exact Steps.cons hpos htag (hPQ _ hP)
        (fun rest => hread _ _ _ _ _ _ hP (hfield rest)) ih

theorem mono (hPQ : ∀ tag, P tag → Q tag) (h : Steps read P a v v') :
    Steps read Q a v v' :=
  h.map (f := id) hPQ fun _ _ _ _ _ _ _ hread => hread

/-- The loop takes the fields one after the other. -/
theorem decodeAll (hread : Shortens read) (h : Steps read P a v v')
    (rest : List UInt8) :
    pbDecodeAll read (a ++ rest) v = pbDecodeAll read rest v' := by
  induction h with
  | nil v => rfl
  | cons hpos htag hP hfield hnext ih =>
      rename_i tag wireType bytes w v v' v''
      have hne : encode (key tag wireType) ++ (bytes ++ w) ++ rest ≠ [] := by
        intro hnil
        have hfront := (List.append_eq_nil_iff.mp hnil).1
        exact encode_ne_nil _ (List.append_eq_nil_iff.mp hfront).1
      rw [pbDecodeAll_turn hread hne, List.append_assoc, List.append_assoc,
        pbDecodeTag_encode htag]
      show (if tag = 0 then _ else _) = _
      rw [if_neg (Nat.ne_of_gt hpos)]
      show (read tag wireType v (bytes ++ (w ++ rest)) >>= _) = _
      rw [hfield]
      exact ih

end Steps

/-! ## A message into a structure -/

/-- The structure `old` after the message of `v`: what is zero in `v` is not in
    the message, and of a submessage that is there the fields are merged. -/
def merge : (d : PbMsgdesc) → d.Val → d.Val → d.Val
  | .nil, _, _ => ()
  | .field _ type rest, v, old =>
      (if type.isDefault v.1 then old.1 else v.1, merge rest v.2 old.2)
  | .submsg _ d rest, v, old =>
      (if v.1.1 then (true, merge d v.1.2 old.1.2) else old.1,
        merge rest v.2 old.2)

/-- A field with another tag in front is passed over. -/
theorem pbDecodeField_field_ne {t tag : Nat} (h : tag ≠ t) (type : PbType)
    {rest : PbMsgdesc} {wireType : BitVec 3} {x : type.Val} {v v' : rest.Val}
    {stream left : List UInt8}
    (hread : pbDecodeField rest tag wireType v stream = .ok (v', left)) :
    pbDecodeField (.field t type rest) tag wireType (x, v) stream
      = .ok ((x, v'), left) := by
  rw [pbDecodeField, if_neg h, hread]
  rfl

theorem pbDecodeField_submsg_ne {t tag : Nat} (h : tag ≠ t) (d : PbMsgdesc)
    {rest : PbMsgdesc} {wireType : BitVec 3} {x : Bool × d.Val}
    {v v' : rest.Val} {stream left : List UInt8}
    (hread : pbDecodeField rest tag wireType v stream = .ok (v', left)) :
    pbDecodeField (.submsg t d rest) tag wireType (x, v) stream
      = .ok ((x, v'), left) := by
  rw [pbDecodeField, if_neg h, hread]
  rfl

/-- A value goes to its field. -/
theorem pbDecodeField_value (tag : Nat) (type : PbType) (rest : PbMsgdesc)
    {x : type.Val} (hfits : type.Fits x) (old : type.Val × rest.Val)
    (left : List UInt8) :
    pbDecodeField (.field tag type rest) tag type.wireType old
        (payload type x ++ left) = .ok ((x, old.2), left) := by
  rw [pbDecodeField, if_pos rfl, decodeBasicField,
    if_neg fun h => h rfl, decodeValue_payload type hfits]
  rfl

/-- A stretch of fields in a substream goes to the submessage. -/
theorem pbDecodeField_submessage (tag : Nat) {d rest : PbMsgdesc}
    {P : Nat → Prop} {w : List UInt8} {x : d.Val}
    (old : (Bool × d.Val) × rest.Val)
    (hsteps : Steps (pbDecodeField d) P w old.1.2 x)
    (hlen : w.length < 2 ^ 32) (left : List UInt8) :
    pbDecodeField (.submsg tag d rest) tag wtString old
        ((encode w.length ++ w) ++ left) = .ok (((true, x), old.2), left) := by
  have hall := hsteps.decodeAll (pbDecodeField_shortens d) []
  rw [List.append_nil] at hall
  rw [pbDecodeField, if_pos rfl, if_neg fun h => h rfl, List.append_assoc,
    pbMakeStringSubstream_encode hlen]
  show (pbDecodeAll (pbDecodeField d) w old.1.2 >>= _) = _
  rw [hall]
  rfl

theorem length_wire_field (tag : Nat) (type : PbType) (rest : PbMsgdesc)
    (v : type.Val × rest.Val) :
    (wire (.field tag type rest) v).length
      = (fieldWire type tag v.1).length + (wire rest v.2).length :=
  List.length_append

theorem length_wire_rest_le {tag : Nat} {d rest : PbMsgdesc}
    {v : (Bool × d.Val) × rest.Val} :
    (wire rest v.2).length ≤ (wire (.submsg tag d rest) v).length := by
  have hsplit : (wire (.submsg tag d rest) v).length = _ := List.length_append
  omega

/-- A message is longer than the submessages in it. -/
theorem length_wire_submsg (tag : Nat) {d rest : PbMsgdesc}
    {v : (Bool × d.Val) × rest.Val} (hhas : v.1.1 = true) :
    (wire d v.1.2).length + (wire rest v.2).length
      ≤ (wire (.submsg tag d rest) v).length := by
  have hsplit : wire (.submsg tag d rest) v
      = (if v.1.1 then submsgWire tag (wire d v.1.2) else []) ++ wire rest v.2 :=
    rfl
  have hle := length_submsgWire_le tag (wire d v.1.2)
  rw [hsplit, hhas, if_pos rfl, List.length_append]
  omega

/-! ## Descriptors that have grown -/

/-- `new` is `old` with further fields, anywhere, and also in submessages. -/
inductive Extension : PbMsgdesc → PbMsgdesc → Type
  | nil : Extension .nil .nil
  | field {old new : PbMsgdesc} (tag : Nat) (type : PbType)
      (rest : Extension old new) :
      Extension (.field tag type old) (.field tag type new)
  | submsg {d d' old new : PbMsgdesc} (tag : Nat) (sub : Extension d d')
      (rest : Extension old new) :
      Extension (.submsg tag d old) (.submsg tag d' new)
  | newField {old new : PbMsgdesc} (tag : Nat) (type : PbType)
      (rest : Extension old new) : Extension old (.field tag type new)
  | newSubmsg {old new : PbMsgdesc} (tag : Nat) (d : PbMsgdesc)
      (rest : Extension old new) : Extension old (.submsg tag d new)

/-- What the old structure has of a new one. -/
def project {old new : PbMsgdesc} : Extension old new → new.Val → old.Val
  | .nil, _ => ()
  | .field _ _ rest, v => (v.1, project rest v.2)
  | .submsg _ sub rest, v => ((v.1.1, project sub v.1.2), project rest v.2)
  | .newField _ _ rest, v => project rest v.2
  | .newSubmsg _ _ rest, v => project rest v.2

/-- The new structure for an old one: what is new is zero. -/
def embed {old new : PbMsgdesc} : Extension old new → old.Val → new.Val
  | .nil, _ => ()
  | .field _ _ rest, v => (v.1, embed rest v.2)
  | .submsg _ sub rest, v => ((v.1.1, embed sub v.1.2), embed rest v.2)
  | .newField _ type rest, v => (type.zero, embed rest v)
  | .newSubmsg _ d rest, v => ((false, d.zero), embed rest v)

variable {old new : PbMsgdesc}

theorem tags_subset (e : Extension old new) :
    ∀ tag ∈ old.tags, tag ∈ new.tags := by
  induction e with
  | nil => exact fun _ h => h
  | field t type rest ih =>
      intro tag h
      rcases List.mem_cons.mp h with rfl | h
      · exact List.mem_cons_self
      · exact List.mem_cons_of_mem _ (ih tag h)
  | submsg t sub rest ihsub ih =>
      intro tag h
      rcases List.mem_cons.mp h with rfl | h
      · exact List.mem_cons_self
      · exact List.mem_cons_of_mem _ (ih tag h)
  | newField t type rest ih =>
      exact fun tag h => List.mem_cons_of_mem _ (ih tag h)
  | newSubmsg t d rest ih =>
      exact fun tag h => List.mem_cons_of_mem _ (ih tag h)

/-- A field that the descriptor does not have is skipped. -/
theorem pbDecodeField_unknown (d : PbMsgdesc) {tag : Nat} (htag : tag ∉ d.tags)
    {wireType : BitVec 3} {stream rest : List UInt8}
    (hskip : pbSkipField stream wireType = .ok rest) (v : d.Val) :
    pbDecodeField d tag wireType v stream = .ok (v, rest) := by
  induction d with
  | nil =>
      rw [pbDecodeField, hskip]
      rfl
  | field t type tail ih =>
      have hne : tag ≠ t := fun h => htag (h ▸ List.mem_cons_self)
      have hrest := ih (fun h => htag (List.mem_cons_of_mem _ h)) v.2
      exact pbDecodeField_field_ne hne type hrest
  | submsg t d tail ihd ih =>
      have hne : tag ≠ t := fun h => htag (h ▸ List.mem_cons_self)
      have hrest := ih (fun h => htag (List.mem_cons_of_mem _ h)) v.2
      exact pbDecodeField_submsg_ne hne d hrest

theorem pbSkipVarint_encode (n : Nat) (rest : List UInt8) :
    pbSkipVarint (encode n ++ rest) = .ok rest := by
  induction n using encode_induct with
  | single n h =>
      rw [encode_of_lt h]
      exact if_neg fun hc =>
        not_continues_last h ((and_80_ne_zero_iff (last n)).mp hc)
  | step g m hg hm ih =>
      rw [encode_add_mul hg hm]
      show (if _ then pbSkipVarint (encode m ++ rest) else _) = _
      rw [if_pos ((and_80_ne_zero_iff (more g)).mpr (continues_more hg)), ih]

theorem pbSkipString_encode {w : List UInt8} (hlen : w.length < 2 ^ 32)
    (rest : List UInt8) :
    pbSkipString ((encode w.length ++ w) ++ rest) = .ok rest := by
  have htoNat : (BitVec.ofNat 32 w.length).toNat = w.length := by
    rw [BitVec.toNat_ofNat, Nat.mod_eq_of_lt hlen]
  have hlong : ¬ (w ++ rest).length < w.length := by
    rw [List.length_append]
    omega
  rw [List.append_assoc, pbSkipString, pbDecodeVarint32_encode hlen]
  show (pbRead (w ++ rest) (BitVec.ofNat 32 w.length).toNat >>= _) = _
  rw [htoNat, pbRead, if_neg hlong, List.drop_left]
  rfl

/-- Any value can be skipped. -/
theorem pbSkipField_payload (type : PbType) {v : type.Val}
    (hfits : type.Fits v) (rest : List UInt8) :
    pbSkipField (payload type v ++ rest) type.wireType = .ok rest := by
  cases type with
  | bool => exact pbSkipVarint_encode _ rest
  | int32 n => exact pbSkipVarint_encode _ rest
  | uint32 n => exact pbSkipVarint_encode _ rest
  | uenum n => exact pbSkipVarint_encode _ rest
  | float => rfl
  | bytes max =>
      exact pbSkipString_encode (Nat.lt_of_le_of_lt hfits.2 (by decide)) rest

/-- A field that takes the structure from `x` to `y`, and what follows it. -/
theorem steps_field_append {tag : Nat} {type : PbType} {d : PbMsgdesc}
    {P : Nat → Prop} {a w : List UInt8} {x y : type.Val} {r r' : d.Val}
    (hhead : Steps (pbDecodeField (.field tag type d)) (· = tag) a (x, r) (y, r))
    (htail : Steps (pbDecodeField d) P w r r') (hnew : ¬ P tag) :
    Steps (pbDecodeField (.field tag type d)) (fun t => t = tag ∨ P t) (a ++ w)
      (x, r) (y, r') := by
  refine Steps.append (hhead.mono fun t h => Or.inl h) ?_
  refine htail.map (f := fun r => (y, r)) (fun t h => Or.inr h) ?_
  intro tag' wireType r stream r' left hmem hread
  refine pbDecodeField_field_ne ?_ type hread
  rintro rfl
  exact hnew hmem

theorem steps_submsg_append {tag : Nat} {s d : PbMsgdesc}
    {P : Nat → Prop} {a w : List UInt8} {x y : Bool × s.Val} {r r' : d.Val}
    (hhead : Steps (pbDecodeField (.submsg tag s d)) (· = tag) a (x, r) (y, r))
    (htail : Steps (pbDecodeField d) P w r r') (hnew : ¬ P tag) :
    Steps (pbDecodeField (.submsg tag s d)) (fun t => t = tag ∨ P t) (a ++ w)
      (x, r) (y, r') := by
  refine Steps.append (hhead.mono fun t h => Or.inl h) ?_
  refine htail.map (f := fun r => (y, r)) (fun t h => Or.inr h) ?_
  intro tag' wireType r stream r' left hmem hread
  refine pbDecodeField_submsg_ne ?_ s hread
  rintro rfl
  exact hnew hmem

/-- **A MESSAGE IS A STRETCH** of fields that merges it into the structure.  The
    sender may have a newer descriptor than the reader: what the fields mean that
    the reader knows does not depend on the others. -/
theorem steps_wire_new (e : Extension old new) (hwf : new.WellFormed)
    {v : new.Val} (hfits : new.Fits v) (hlen : (wire new v).length < 2 ^ 32)
    (dest : old.Val) :
    Steps (pbDecodeField old) (· ∈ new.tags) (wire new v) dest
      (merge old (project e v) dest) := by
  induction e with
  | nil => exact Steps.nil ()
  | @field old new tag type rest ih =>
      obtain ⟨hpos, htag, hfresh, hrest⟩ := hwf
      rw [length_wire_field] at hlen
      have htail := ih hrest hfits.2 (by omega) dest.2
      refine (steps_field_append (x := dest.1)
        (y := if type.isDefault v.1 then dest.1 else v.1) ?_ htail hfresh).mono
        (fun t h => List.mem_cons.mpr h)
      rw [fieldWire]
      by_cases hdefault : type.isDefault v.1 = true
      · rw [if_pos hdefault, if_pos hdefault]
        exact Steps.nil _
      · rw [if_neg hdefault, if_neg hdefault]
        exact Steps.single hpos htag rfl
          (pbDecodeField_value tag type old hfits.1 dest)
  | @submsg d d' old new tag sub rest ihsub ih =>
      obtain ⟨hpos, htag, hfresh, hd, hrest⟩ := hwf
      have htail := ih hrest hfits.2
        (Nat.lt_of_le_of_lt length_wire_rest_le hlen) dest.2
      refine (steps_submsg_append (x := dest.1)
        (y := if v.1.1 then (true, merge d (project sub v.1.2) dest.1.2)
          else dest.1) ?_ htail hfresh).mono (fun t h => List.mem_cons.mpr h)
      cases hhas : v.1.1 with
      | false => exact Steps.nil _
      | true =>
          have hsub : (wire d' v.1.2).length < 2 ^ 32 := by
            have hle := length_wire_submsg tag hhas
            omega
          rw [if_pos rfl, if_pos rfl]
          exact Steps.single hpos htag rfl
            (pbDecodeField_submessage tag dest (ihsub hd hfits.1 hsub dest.1.2)
              hsub)
  | @newField old new tag type rest ih =>
      obtain ⟨hpos, htag, hfresh, hrest⟩ := hwf
      rw [length_wire_field] at hlen
      have htail := ih hrest hfits.2 (by omega) dest
      suffices hfirst : Steps _ _ _ dest dest from
        hfirst.append (htail.mono fun t h => List.mem_cons_of_mem _ h)
      rw [fieldWire]
      by_cases hdefault : type.isDefault v.1 = true
      · rw [if_pos hdefault]
        exact Steps.nil _
      · rw [if_neg hdefault]
        refine Steps.single hpos htag List.mem_cons_self fun left => ?_
        exact pbDecodeField_unknown old
          (fun hmem => hfresh (tags_subset rest _ hmem))
          (pbSkipField_payload type hfits.1 left) dest
  | @newSubmsg old new tag d rest ih =>
      obtain ⟨hpos, htag, hfresh, hd, hrest⟩ := hwf
      have htail := ih hrest hfits.2
        (Nat.lt_of_le_of_lt length_wire_rest_le hlen) dest
      suffices hfirst : Steps _ _ _ dest dest from
        hfirst.append (htail.mono fun t h => List.mem_cons_of_mem _ h)
      cases hhas : v.1.1 with
      | false => exact Steps.nil _
      | true =>
          have hsub : (wire d v.1.2).length < 2 ^ 32 := by
            have hle := length_wire_submsg tag hhas
            omega
          rw [if_pos rfl]
          refine Steps.single hpos htag List.mem_cons_self fun left => ?_
          have hskip : pbSkipField
              (encode (wire d v.1.2).length ++ wire d v.1.2 ++ left) wtString
              = .ok left := pbSkipString_encode hsub left
          exact pbDecodeField_unknown old
            (fun hmem => hfresh (tags_subset rest _ hmem)) hskip dest

/-- The same descriptor. -/
def Extension.refl : (d : PbMsgdesc) → Extension d d
  | .nil => .nil
  | .field tag type rest => .field tag type (refl rest)
  | .submsg tag d rest => .submsg tag (refl d) (refl rest)

theorem project_refl (d : PbMsgdesc) (v : d.Val) :
    project (Extension.refl d) v = v := by
  induction d with
  | nil => rfl
  | field tag type rest ih =>
      show (v.1, project (Extension.refl rest) v.2) = v
      rw [ih]
  | submsg tag d rest ihd ih =>
      show ((v.1.1, project (Extension.refl d) v.1.2),
        project (Extension.refl rest) v.2) = v
      rw [ihd, ih]

theorem steps_wire (d : PbMsgdesc) (hd : d.WellFormed) {v : d.Val}
    (hfits : d.Fits v) (hlen : (wire d v).length < 2 ^ 32) (dest : d.Val) :
    Steps (pbDecodeField d) (· ∈ d.tags) (wire d v) dest (merge d v dest) := by
  have h := steps_wire_new (Extension.refl d) hd hfits hlen dest
  rw [project_refl] at h
  exact h

/-! ## Round trips -/

theorem pbMessageSetToDefaults_eq (d : PbMsgdesc) (v : d.Val) :
    pbMessageSetToDefaults d v = d.zero := by
  induction d with
  | nil => rfl
  | field tag type rest ih =>
      show (type.zero, pbMessageSetToDefaults rest v.2) = _
      rw [ih]
      rfl
  | submsg tag d rest ihd ih =>
      show ((false, if d.hasSubmsg then _ else _), _) = _
      rw [ihd, ih, ite_self]
      rfl

theorem eq_zero_of_isDefault {type : PbType} {v : type.Val}
    (h : type.isDefault v = true) : v = type.zero := by
  cases type with
  | bool =>
      cases v with
      | false => rfl
      | true => exact nomatch h
  | int32 n => exact eq_of_beq h
  | uint32 n => exact eq_of_beq h
  | uenum n => exact eq_of_beq h
  | float => exact eq_of_beq h
  | bytes max => exact List.eq_nil_of_length_eq_zero (eq_of_beq h)

/-- A submessage that is not there is zero. -/
def Clean : (d : PbMsgdesc) → d.Val → Prop
  | .nil, _ => True
  | .field _ _ rest, v => Clean rest v.2
  | .submsg _ d rest, v =>
      (v.1.1 = false → v.1.2 = d.zero) ∧ Clean d v.1.2 ∧ Clean rest v.2

theorem clean_zero (d : PbMsgdesc) : Clean d d.zero := by
  induction d with
  | nil => trivial
  | field tag type rest ih => exact ih
  | submsg tag d rest ihd ih => exact ⟨fun _ => rfl, ihd, ih⟩

/-- The structure with zero for every submessage that is not there. -/
def clear : (d : PbMsgdesc) → d.Val → d.Val
  | .nil, _ => ()
  | .field _ _ rest, v => (v.1, clear rest v.2)
  | .submsg _ d rest, v =>
      ((v.1.1, if v.1.1 then clear d v.1.2 else d.zero), clear rest v.2)

/-- What is sent through a zero structure arrives cleared. -/
theorem merge_clear (d : PbMsgdesc) (v : d.Val) :
    merge d v d.zero = clear d v := by
  induction d with
  | nil => rfl
  | field tag type rest ih =>
      show (if type.isDefault v.1 then type.zero else v.1,
        merge rest v.2 rest.zero) = (v.1, clear rest v.2)
      rw [ih]
      by_cases h : type.isDefault v.1 = true
      · rw [if_pos h, ← eq_zero_of_isDefault h]
      · rw [if_neg h]
  | submsg tag d rest ihd ih =>
      show (if v.1.1 then (true, merge d v.1.2 d.zero) else (false, d.zero),
        merge rest v.2 rest.zero) = ((v.1.1, _), clear rest v.2)
      rw [ih, ihd]
      cases hhas : v.1.1 with
      | false => rfl
      | true => rfl

theorem clear_eq (d : PbMsgdesc) {v : d.Val} (hclean : Clean d v) :
    clear d v = v := by
  induction d with
  | nil => rfl
  | field tag type rest ih =>
      show (v.1, clear rest v.2) = v
      rw [ih hclean]
  | submsg tag d rest ihd ih =>
      obtain ⟨habsent, hd, hrest⟩ := hclean
      show ((v.1.1, if v.1.1 then clear d v.1.2 else d.zero),
        clear rest v.2) = v
      rw [ih hrest, ihd hd]
      cases hhas : v.1.1 with
      | false => rw [if_neg (by decide), ← habsent hhas, ← hhas]
      | true => rw [if_pos rfl, ← hhas]

/-- **ROUND TRIP**: whatever the destination held before, it has the fields that
    were sent, and zero for the submessages that were not. -/
theorem pbDecode_wire (d : PbMsgdesc) (hd : d.WellFormed) {v : d.Val}
    (hfits : d.Fits v) (hlen : (wire d v).length < 2 ^ 32) (dest : d.Val) :
    pbDecode d (wire d v) dest = .ok (clear d v) := by
  have hsteps := steps_wire d hd hfits hlen d.zero
  have hall := hsteps.decodeAll (pbDecodeField_shortens d) []
  rw [List.append_nil, merge_clear] at hall
  rw [pbDecode, pbMessageSetToDefaults_eq, hall]
  rfl

/-- **ONE MESSAGE AFTER ANOTHER** in one stream: the second is merged into the
    first. -/
theorem pbDecode_wire_append (d : PbMsgdesc) (hd : d.WellFormed) {v v' : d.Val}
    (hfits : d.Fits v) (hfits' : d.Fits v')
    (hlen : (wire d v).length < 2 ^ 32) (hlen' : (wire d v').length < 2 ^ 32)
    (dest : d.Val) :
    pbDecode d (wire d v ++ wire d v') dest
      = .ok (merge d v' (clear d v)) := by
  have hfirst := steps_wire d hd hfits hlen d.zero
  rw [merge_clear] at hfirst
  have hboth := hfirst.append (steps_wire d hd hfits' hlen' (clear d v))
  have hall := hboth.decodeAll (pbDecodeField_shortens d) []
  rw [List.append_nil] at hall
  rw [pbDecode, pbMessageSetToDefaults_eq, hall]
  rfl

end PbDecode
