import UspZephyr.PbDecodeProofs

/-! # What is accepted, and between whom

    `pbDecode_keeps`: whatever bytes the decoder accepts, the structure it makes
    of them is one that the encoder takes, and the encoding of it is bounded by
    the descriptor (`length_wire_le`), so it can be sent again
    (`pbDecode_again`).  `pbDecode_evolves` is about a sender and a reader that
    were built from different versions of a message. -/

namespace PbExchange

open Varint PbVarint PbStream PbMessage PbDecode

variable {V : Type}

/-! ## What is accepted -/

/-- What every field keeps, the loop keeps. -/
theorem pbDecodeAll_invariant {read : FieldReader V} {I : V → Prop}
    (hread : ∀ tag wireType v stream v' rest, I v →
      read tag wireType v stream = .ok (v', rest) → I v')
    {stream : List UInt8} {v v' : V} (hv : I v)
    (h : pbDecodeAll read stream v = .ok v') : I v' := by
  have hloop : ∀ turns (stream : List UInt8) (v : V), I v →
      pbDecodeLoop read turns stream v = .ok v' → I v' := by
    intro turns
    induction turns with
    | zero =>
        intro stream v hv h
        cases stream with
        | nil =>
            rw [← Except.ok.inj h]
            exact hv
        | cons b tail =>
            rw [← Except.ok.inj h]
            exact hv
    | succ turns ih =>
        intro stream v hv h
        cases stream with
        | nil =>
            rw [← Except.ok.inj h]
            exact hv
        | cons b tail =>
            obtain ⟨⟨⟨wireType, tag⟩, left⟩, -, h⟩ := bind_eq_ok.mp h
            by_cases hzero : tag = 0
            · dsimp only at h
              rw [if_pos hzero] at h
              exact nomatch h
            · dsimp only at h
              rw [if_neg hzero] at h
              obtain ⟨⟨v'', rest⟩, hfield, h⟩ := bind_eq_ok.mp h
              exact ih _ _ (hread _ _ _ _ _ _ hv hfield) h
  exact hloop _ _ _ hv h

theorem pbRead_length {stream bytes rest : List UInt8} {count : Nat}
    (h : pbRead stream count = .ok (bytes, rest)) : bytes.length = count := by
  rw [pbRead] at h
  by_cases hshort : stream.length < count
  · rw [if_pos hshort] at h
    cases h
  · rw [if_neg hshort] at h
    have hbytes : stream.take count = bytes :=
      congrArg Prod.fst (Except.ok.inj h)
    rw [← hbytes, List.length_take]
    omega

/-- A value that is read has its place in the structure. -/
theorem decodeBasicField_fits {type : PbType} {wireType : BitVec 3}
    {stream rest : List UInt8} {v : type.Val}
    (h : decodeBasicField type wireType stream = .ok (v, rest)) :
    type.Fits v := by
  rw [decodeBasicField] at h
  split at h
  · cases h
  · cases type with
    | bytes max =>
        obtain ⟨⟨size, tail⟩, -, h⟩ := bind_eq_ok.mp h
        dsimp only at h
        split at h
        · cases h
        · split at h
          · cases h
          · have hlen : v.length = size.toNat := pbRead_length h
            refine ⟨?_, ?_⟩ <;> omega
    | bool => trivial
    | int32 n => trivial
    | uint32 n => trivial
    | uenum n => trivial
    | float => trivial

/-- A field keeps what it is put into fitting and clean. -/
theorem pbDecodeField_keeps (d : PbMsgdesc) :
    ∀ tag wireType v stream v' rest, d.Fits v ∧ Clean d v →
      pbDecodeField d tag wireType v stream = .ok (v', rest) →
      d.Fits v' ∧ Clean d v' := by
  induction d with
  | nil => exact fun _ _ _ _ _ _ _ _ => ⟨trivial, trivial⟩
  | field t type tail ih =>
      rintro tag wireType v stream v' rest ⟨⟨hvalue, hfits⟩, hclean⟩ h
      rw [pbDecodeField] at h
      split at h
      · obtain ⟨⟨x, rest'⟩, hread, heq⟩ := bind_eq_ok.mp h
        have hv' : (x, v.2) = v' := congrArg Prod.fst (Except.ok.inj heq)
        rw [← hv']
        exact ⟨⟨decodeBasicField_fits hread, hfits⟩, hclean⟩
      · obtain ⟨⟨r, rest'⟩, hread, heq⟩ := bind_eq_ok.mp h
        have hv' : (v.1, r) = v' := congrArg Prod.fst (Except.ok.inj heq)
        have hr := ih _ _ _ _ _ _ ⟨hfits, hclean⟩ hread
        rw [← hv']
        exact ⟨⟨hvalue, hr.1⟩, hr.2⟩
  | submsg t d tail ihd ih =>
      rintro tag wireType v stream v' rest
        ⟨⟨hsub, hfits⟩, habsent, hcleanSub, hclean⟩ h
      rw [pbDecodeField] at h
      split at h
      · split at h
        · cases h
        · obtain ⟨⟨sub, rest'⟩, -, h⟩ := bind_eq_ok.mp h
          obtain ⟨x, hread, heq⟩ := bind_eq_ok.mp h
          have hv' : ((true, x), v.2) = v' :=
            congrArg Prod.fst (Except.ok.inj heq)
          have hx := pbDecodeAll_invariant (I := fun v => d.Fits v ∧ Clean d v)
            ihd ⟨hsub, hcleanSub⟩ hread
          rw [← hv']
          exact ⟨⟨hx.1, hfits⟩, Bool.noConfusion, hx.2, hclean⟩
      · obtain ⟨⟨r, rest'⟩, hread, heq⟩ := bind_eq_ok.mp h
        have hv' : (v.1, r) = v' := congrArg Prod.fst (Except.ok.inj heq)
        have hr := ih _ _ _ _ _ _ ⟨hfits, hclean⟩ hread
        rw [← hv']
        exact ⟨⟨hsub, hr.1⟩, habsent, hcleanSub, hr.2⟩

theorem type_fits_zero (type : PbType) : type.Fits type.zero := by
  cases type with
  | bytes max =>
      refine ⟨?_, Nat.zero_le _⟩
      show 0 + 2 ≤ bytesDataSize max
      rw [bytesDataSize]
      omega
  | bool => trivial
  | int32 n => trivial
  | uint32 n => trivial
  | uenum n => trivial
  | float => trivial

theorem fits_zero (d : PbMsgdesc) : d.Fits d.zero := by
  induction d with
  | nil => trivial
  | field tag type rest ih => exact ⟨type_fits_zero type, ih⟩
  | submsg tag d rest ihd ih => exact ⟨ihd, ih⟩

/-- Whatever bytes are accepted, the structure is one that can be encoded. -/
theorem pbDecode_keeps (d : PbMsgdesc) {stream : List UInt8} {dest v : d.Val}
    (h : pbDecode d stream dest = .ok v) : d.Fits v ∧ Clean d v := by
  rw [pbDecode, pbMessageSetToDefaults_eq] at h
  exact pbDecodeAll_invariant (I := fun v => d.Fits v ∧ Clean d v)
    (pbDecodeField_keeps d) ⟨fits_zero d, clean_zero d⟩ h

/-! ## Lengths -/

/-- The bytes of a varint below `2 ^ 35`. -/
def varintSize (n : Nat) : Nat :=
  if n < 128 then 1
  else if n < 128 ^ 2 then 2
  else if n < 128 ^ 3 then 3
  else if n < 128 ^ 4 then 4
  else 5

theorem length_encode_le_varintSize {n m : Nat} (hnm : n ≤ m)
    (hm : m < 128 ^ 5) : (encode n).length ≤ varintSize m := by
  rw [varintSize]
  split
  · exact length_encode_le (by decide) (by omega)
  · split
    · exact length_encode_le (by decide) (by omega)
    · split
      · exact length_encode_le (by decide) (by omega)
      · split
        · exact length_encode_le (by decide) (by omega)
        · exact length_encode_le (by decide) (by omega)

theorem length_encode_eq_varintSize {n : Nat} (hn : n < 128 ^ 5) :
    (encode n).length = varintSize n := by
  refine Nat.le_antisymm (length_encode_le_varintSize (Nat.le_refl n) hn) ?_
  rw [varintSize]
  split
  · exact List.length_pos_iff.mpr (encode_ne_nil n)
  · split
    · exact lt_length_encode (k := 1) (by omega)
    · split
      · exact lt_length_encode (k := 2) (by omega)
      · split
        · exact lt_length_encode (k := 3) (by omega)
        · exact lt_length_encode (k := 4) (by omega)

/-- The length of a message whose values take no more than `limit` bytes. -/
def sizeWith (limit : PbType → Nat) : PbMsgdesc → Nat
  | .nil => 0
  | .field tag type rest =>
      varintSize (key tag type.wireType) + limit type + sizeWith limit rest
  | .submsg tag d rest =>
      varintSize (key tag wtString) + varintSize (sizeWith limit d)
        + sizeWith limit d + sizeWith limit rest

/-- The values take no more than `limit` bytes. -/
def Within (limit : PbType → Nat) : (d : PbMsgdesc) → d.Val → Prop
  | .nil, _ => True
  | .field _ type rest, v =>
      (payload type v.1).length ≤ limit type ∧ Within limit rest v.2
  | .submsg _ d rest, v => Within limit d v.1.2 ∧ Within limit rest v.2

theorem length_key_le {tag : Nat} (htag : tag < tagLimit) (wireType : BitVec 3) :
    (encode (key tag wireType)).length ≤ varintSize (key tag wireType) :=
  length_encode_le_varintSize (Nat.le_refl _)
    (Nat.lt_trans (key_lt htag wireType) (by decide))

/-- **NO MESSAGE IS LONGER** than its descriptor says. -/
theorem length_wire_le {limit : PbType → Nat} (d : PbMsgdesc)
    (hd : d.WellFormed) (hsize : sizeWith limit d < 2 ^ 32) {v : d.Val}
    (hv : Within limit d v) : (wire d v).length ≤ sizeWith limit d := by
  induction d with
  | nil => exact Nat.le_refl 0
  | field tag type rest ih =>
      obtain ⟨-, htag, -, hrest⟩ := hd
      have hsplit : sizeWith limit (.field tag type rest)
          = varintSize (key tag type.wireType) + limit type
            + sizeWith limit rest := rfl
      rw [hsplit] at hsize ⊢
      have htail := ih hrest (by omega) hv.2
      have hkey := length_key_le htag type.wireType
      have hvalue := hv.1
      have hfield : (fieldWire type tag v.1).length
          ≤ varintSize (key tag type.wireType) + limit type := by
        rw [fieldWire]
        split
        · exact Nat.zero_le _
        · rw [List.length_append]
          omega
      rw [length_wire_field]
      omega
  | submsg tag d rest ihd ih =>
      obtain ⟨-, htag, -, hd, hrest⟩ := hd
      have hsplit : sizeWith limit (.submsg tag d rest)
          = varintSize (key tag wtString) + varintSize (sizeWith limit d)
            + sizeWith limit d + sizeWith limit rest := rfl
      rw [hsplit] at hsize ⊢
      have htail := ih hrest (by omega) hv.2
      have hsub := ihd hd (by omega) hv.1
      have hkey := length_key_le htag wtString
      have hprefix : (encode (wire d v.1.2).length).length
          ≤ varintSize (sizeWith limit d) :=
        length_encode_le_varintSize hsub (by omega)
      have hfield : (if v.1.1 then submsgWire tag (wire d v.1.2)
          else []).length
          ≤ varintSize (key tag wtString) + varintSize (sizeWith limit d)
            + sizeWith limit d := by
        split
        · rw [submsgWire, List.length_append, List.length_append]
          omega
        · exact Nat.zero_le _
      have hlength : (wire (.submsg tag d rest) v).length
          = (if v.1.1 then submsgWire tag (wire d v.1.2) else []).length
            + (wire rest v.2).length := List.length_append
      rw [hlength]
      omega

/-- The bytes that a value can take at most when it fits its field. -/
def roomOf : PbType → Nat
  | .bytes max => 3 + bytesDataSize max
  | _ => 10

theorem length_payload_le {type : PbType} {v : type.Val} (hfits : type.Fits v) :
    (payload type v).length ≤ roomOf type := by
  have hten : ∀ n, n < 2 ^ 64 → (encode n).length ≤ 10 :=
    fun n hn => length_encode_le (by decide) (Nat.lt_trans hn (by decide))
  cases type with
  | bool =>
      refine hten _ ?_
      split <;> decide
  | int32 n => exact hten _ (v.signExtend 64).isLt
  | uint32 n =>
      refine hten _ ?_
      rw [← toNat_setWidth_64 v]
      exact (v.setWidth 64).isLt
  | uenum n =>
      refine hten _ ?_
      rw [← toNat_setWidth_64 v]
      exact (v.setWidth 64).isLt
  | float =>
      show 4 ≤ 10
      decide
  | bytes max =>
      obtain ⟨hroom, hsize⟩ := hfits
      have hprefix : (encode v.length).length ≤ 3 :=
        length_encode_le (by decide) (by omega)
      show (encode v.length ++ v).length ≤ 3 + bytesDataSize max
      rw [List.length_append]
      omega

theorem within_roomOf (d : PbMsgdesc) {v : d.Val} (hfits : d.Fits v) :
    Within roomOf d v := by
  induction d with
  | nil => trivial
  | field tag type rest ih =>
      exact ⟨length_payload_le hfits.1, ih hfits.2⟩
  | submsg tag d rest ihd ih => exact ⟨ihd hfits.1, ih hfits.2⟩

/-- Two flags and a number under one of them. -/
def sampleDesc : PbMsgdesc :=
  .field 1 .bool <| .submsg 2 (.field 1 (.uint32 .four) .nil) .nil

/-- **WHAT IS ACCEPTED CAN BE SENT AGAIN**, and is the same when it arrives. -/
theorem pbDecode_again (d : PbMsgdesc) (hd : d.WellFormed)
    (hsize : sizeWith roomOf d < 2 ^ 32) {stream : List UInt8} {dest v : d.Val}
    (h : pbDecode d stream dest = .ok v) :
    pbEncode d (pbOstreamFromBuffer (sizeWith roomOf d)) v
        = .ok { callback := true, state := wire d v
                maxSize := sizeWith roomOf d
                bytesWritten := (wire d v).length }
      ∧ ∀ dest', pbDecode d (wire d v) dest' = .ok v := by
  obtain ⟨hfits, hclean⟩ := pbDecode_keeps d h
  have hle := length_wire_le d hd hsize (within_roomOf d hfits)
  refine ⟨?_, ?_⟩
  · rw [pbEncode_buffer d hd hfits (by omega), if_pos hle]
  · intro dest'
    rw [pbDecode_wire d hd hfits (by omega) dest', clear_eq d hclean]

theorem pbDecode_again_sample :
    pbEncode sampleDesc (pbOstreamFromBuffer (sizeWith roomOf sampleDesc))
          (true, (false, 0, ()), ())
        = .ok { callback := true
                state := wire sampleDesc (true, (false, 0, ()), ())
                maxSize := sizeWith roomOf sampleDesc
                bytesWritten :=
                  (wire sampleDesc (true, (false, 0, ()), ())).length }
      ∧ ∀ dest', pbDecode sampleDesc (wire sampleDesc (true, (false, 0, ()), ()))
        dest' = .ok (true, (false, 0, ()), ()) :=
  @pbDecode_again sampleDesc (by decide) (by decide) [0x08, 0x80, 0x02]
    sampleDesc.zero (true, (false, 0, ()), ()) rfl

/-! ## Sent through a buffer -/

/-- **SENT AND RECEIVED**: the size that is asked for beforehand is that of the
    message, a smaller buffer is refused, and what comes out of any other is the
    structure again, without the submessages whose flag is not set. -/
theorem message_sent (d : PbMsgdesc) (hd : d.WellFormed) {v : d.Val}
    (hfits : d.Fits v) (hlen : (wire d v).length < 2 ^ 32) :
    ∃ size, pbGetEncodedSize d v = .ok size ∧ ∀ bufsize,
      (bufsize < size →
        pbEncode d (pbOstreamFromBuffer bufsize) v = .error "stream full")
      ∧ (size ≤ bufsize →
        ∃ s, pbEncode d (pbOstreamFromBuffer bufsize) v = .ok s
          ∧ s.bytesWritten = size ∧ s.state.length = size
          ∧ ∀ dest, pbDecode d s.state dest = .ok (clear d v)) := by
  refine ⟨(wire d v).length, pbGetEncodedSize_eq d hd hfits (by omega),
    fun bufsize => ⟨fun hsmall => ?_, fun hle => ?_⟩⟩
  · rw [pbEncode_buffer d hd hfits (by omega), if_neg (by omega)]
  · rw [pbEncode_buffer d hd hfits (by omega), if_pos hle]
    exact ⟨_, rfl, rfl, rfl, fun dest => pbDecode_wire d hd hfits hlen dest⟩

theorem length_wire_sample {v : sampleDesc.Val} (hfits : sampleDesc.Fits v) :
    (wire sampleDesc v).length ≤ 32 :=
  Nat.le_trans (length_wire_le sampleDesc (by decide) (by decide)
    (within_roomOf sampleDesc hfits)) (by decide)

theorem message_sent_sample :
    ∃ size, pbGetEncodedSize sampleDesc (true, (true, 300, ()), ()) = .ok size
      ∧ ∀ bufsize,
        (bufsize < size → pbEncode sampleDesc (pbOstreamFromBuffer bufsize)
            (true, (true, 300, ()), ()) = .error "stream full")
        ∧ (size ≤ bufsize →
          ∃ s, pbEncode sampleDesc (pbOstreamFromBuffer bufsize)
              (true, (true, 300, ()), ()) = .ok s
            ∧ s.bytesWritten = size ∧ s.state.length = size
            ∧ ∀ dest, pbDecode sampleDesc s.state dest
              = .ok (clear sampleDesc (true, (true, 300, ()), ()))) :=
  have hfits : sampleDesc.Fits (true, (true, 300, ()), ()) :=
    ⟨trivial, ⟨trivial, trivial⟩, trivial⟩
  message_sent sampleDesc (by decide) hfits
    (Nat.lt_of_le_of_lt (length_wire_sample hfits) (by decide))

/-- **TWO MESSAGES IN ONE STREAM** are read as one, in which the second has been
    written over the first: it decides every field that it has, it leaves the
    others, and the same holds inside the submessages. -/
theorem messages_merged (d : PbMsgdesc) (hd : d.WellFormed) {v v' : d.Val}
    (hfits : d.Fits v) (hfits' : d.Fits v')
    (hlen : (wire d v ++ wire d v').length < 2 ^ 32) {bufsize : Nat}
    (hroom : (wire d v ++ wire d v').length ≤ bufsize) :
    ∃ s, (pbEncode d (pbOstreamFromBuffer bufsize) v
          >>= fun s => pbEncode d s v') = .ok s
      ∧ s.bytesWritten = s.state.length
      ∧ ∀ dest, pbDecode d s.state dest = .ok (merge d v' (clear d v)) := by
  have hlen' := hlen
  rw [List.length_append] at hlen'
  have hboth : (pbEncode d (pbOstreamFromBuffer bufsize) v
      >>= fun s => pbEncode d s v')
      = pbWrite (pbOstreamFromBuffer bufsize) (wire d v ++ wire d v')
          (wire d v ++ wire d v').length := by
    rw [pbEncode_eq d hd _ hfits (by omega), ← pbWrite_append]
    exact congrArg _ (funext fun s => pbEncode_eq d hd s hfits' (by omega))
  have hfree : (pbOstreamFromBuffer bufsize).bytesWritten
      + (wire d v ++ wire d v').length ≤ bufsize := by
    show 0 + _ ≤ bufsize
    omega
  rw [hboth, pbWrite_fits rfl hfree]
  refine ⟨_, rfl, Nat.zero_add _, fun dest => ?_⟩
  exact pbDecode_wire_append d hd hfits hfits' (by omega) (by omega) dest

theorem messages_merged_sample :
    ∃ s, (pbEncode sampleDesc (pbOstreamFromBuffer 64)
            (true, (true, 300, ()), ())
          >>= fun s => pbEncode sampleDesc s (false, (true, 0, ()), ())) = .ok s
      ∧ s.bytesWritten = s.state.length
      ∧ ∀ dest, pbDecode sampleDesc s.state dest
        = .ok (merge sampleDesc (false, (true, 0, ()), ())
            (clear sampleDesc (true, (true, 300, ()), ()))) := by
  have hfits : sampleDesc.Fits (true, (true, 300, ()), ()) :=
    ⟨trivial, ⟨trivial, trivial⟩, trivial⟩
  have hfits' : sampleDesc.Fits (false, (true, 0, ()), ()) :=
    ⟨trivial, ⟨trivial, trivial⟩, trivial⟩
  have hlen := length_wire_sample hfits
  have hlen' := length_wire_sample hfits'
  refine messages_merged sampleDesc (by decide) hfits hfits' ?_ ?_
  · rw [List.length_append]
    omega
  · rw [List.length_append]
    omega

/-! ## A sender and a reader of different descriptors -/

variable {old new : PbMsgdesc}

theorem project_zero (e : Extension old new) :
    project e new.zero = old.zero := by
  induction e with
  | nil => rfl
  | @field old new tag type rest ih =>
      show (type.zero, project rest new.zero) = _
      rw [ih]
      rfl
  | @submsg d d' old new tag sub rest ihsub ih =>
      show ((false, project sub d'.zero), project rest new.zero) = _
      rw [ihsub, ih]
      rfl
  | newField tag type rest ih => exact ih
  | newSubmsg tag d rest ih => exact ih

theorem clean_project (e : Extension old new) {v : new.Val}
    (hclean : Clean new v) : Clean old (project e v) := by
  induction e with
  | nil => trivial
  | field tag type rest ih => exact ih hclean
  | submsg tag sub rest ihsub ih =>
      obtain ⟨habsent, hsub, hrest⟩ := hclean
      refine ⟨fun hfalse => ?_, ihsub hsub, ih hrest⟩
      show project sub v.1.2 = _
      rw [habsent hfalse]
      exact project_zero sub
  | newField tag type rest ih => exact ih hclean
  | newSubmsg tag d rest ih => exact ih hclean.2.2

theorem embed_zero (e : Extension old new) : embed e old.zero = new.zero := by
  induction e with
  | nil => rfl
  | @field old new tag type rest ih =>
      show (type.zero, embed rest old.zero) = _
      rw [ih]
      rfl
  | @submsg d d' old new tag sub rest ihsub ih =>
      show ((false, embed sub d.zero), embed rest old.zero) = _
      rw [ihsub, ih]
      rfl
  | @newField old new tag type rest ih =>
      show (type.zero, embed rest old.zero) = _
      rw [ih]
      rfl
  | @newSubmsg old new tag d rest ih =>
      show ((false, d.zero), embed rest old.zero) = _
      rw [ih]
      rfl

theorem isDefault_zero (type : PbType) : type.isDefault type.zero = true := by
  cases type with
  | bool => rfl
  | int32 n => exact beq_self_eq_true _
  | uint32 n => exact beq_self_eq_true _
  | uenum n => exact beq_self_eq_true _
  | float => rfl
  | bytes max => rfl

theorem clean_embed (e : Extension old new) {v : old.Val}
    (hclean : Clean old v) : Clean new (embed e v) := by
  induction e with
  | nil => trivial
  | field tag type rest ih => exact ih hclean
  | @submsg d d' old new tag sub rest ihsub ih =>
      obtain ⟨habsent, hsub, hrest⟩ := hclean
      refine ⟨fun hfalse => ?_, ihsub hsub, ih hrest⟩
      show embed sub v.1.2 = _
      rw [habsent hfalse]
      exact embed_zero sub
  | newField tag type rest ih => exact ih hclean
  | newSubmsg tag d rest ih => exact ⟨fun _ => rfl, clean_zero d, ih hclean⟩

theorem fits_embed (e : Extension old new) {v : old.Val} (hfits : old.Fits v) :
    new.Fits (embed e v) := by
  induction e with
  | nil => trivial
  | field tag type rest ih => exact ⟨hfits.1, ih hfits.2⟩
  | submsg tag sub rest ihsub ih => exact ⟨ihsub hfits.1, ih hfits.2⟩
  | newField tag type rest ih => exact ⟨type_fits_zero type, ih hfits⟩
  | newSubmsg tag d rest ih => exact ⟨fits_zero d, ih hfits⟩

/-- Fields that are new, being zero, are not sent. -/
theorem wire_embed (e : Extension old new) (v : old.Val) :
    wire new (embed e v) = wire old v := by
  induction e with
  | nil => rfl
  | @field old new tag type rest ih =>
      show fieldWire type tag v.1 ++ wire new (embed rest v.2) = _
      rw [ih]
      rfl
  | @submsg d d' old new tag sub rest ihsub ih =>
      show (if v.1.1 then submsgWire tag (wire d' (embed sub v.1.2)) else [])
        ++ wire new (embed rest v.2) = _
      rw [ih, ihsub]
      rfl
  | @newField old new tag type rest ih =>
      show fieldWire type tag type.zero ++ wire new (embed rest v) = _
      rw [fieldWire, if_pos (isDefault_zero type), ih]
      rfl
  | newSubmsg tag d rest ih => exact ih v

/-- **OLD AND NEW**: a reader with the older descriptor has of a newer message
    what it knows, and one with the newer has an older message with zero for the
    rest. -/
theorem pbDecode_evolves (e : Extension old new) (hwf : new.WellFormed) :
    (∀ v : new.Val, new.Fits v → Clean new v → (wire new v).length < 2 ^ 32 →
      ∀ dest, pbDecode old (wire new v) dest = .ok (project e v))
    ∧ ∀ v : old.Val, old.Fits v → Clean old v → (wire old v).length < 2 ^ 32 →
      ∀ dest, pbDecode new (wire old v) dest = .ok (embed e v) := by
  constructor
  · intro v hfits hclean hlen dest
    have hsteps := steps_wire_new e hwf hfits hlen old.zero
    rw [merge_clear, clear_eq old (clean_project e hclean)] at hsteps
    have hall := hsteps.decodeAll (pbDecodeField_shortens old) []
    rw [List.append_nil] at hall
    rw [pbDecode, pbMessageSetToDefaults_eq, hall]
    rfl
  · intro v hfits hclean hlen dest
    rw [← wire_embed e v] at hlen ⊢
    rw [pbDecode_wire new hwf (fits_embed e hfits) hlen dest,
      clear_eq new (clean_embed e hclean)]

/-- The sample without its submessage. -/
def sampleExtension : Extension (.field 1 .bool .nil) sampleDesc :=
  .field 1 .bool (.newSubmsg 2 _ .nil)

theorem pbDecode_evolves_sample :
    (∀ v : sampleDesc.Val, sampleDesc.Fits v → Clean sampleDesc v →
      (wire sampleDesc v).length < 2 ^ 32 → ∀ dest,
      pbDecode (.field 1 .bool .nil) (wire sampleDesc v) dest
        = .ok (project sampleExtension v))
    ∧ ∀ v, (PbMsgdesc.field 1 .bool .nil).Fits v →
      Clean (.field 1 .bool .nil) v →
      (wire (.field 1 .bool .nil) v).length < 2 ^ 32 → ∀ dest,
      pbDecode sampleDesc (wire (.field 1 .bool .nil) v) dest
        = .ok (embed sampleExtension v) :=
  pbDecode_evolves sampleExtension (by decide)

end PbExchange
