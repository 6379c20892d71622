import UspZephyr.PbIteratorProofs
import UspZephyr.PbExchangeProofs

/-! # The decoder with its iterator

    `pbDecodeField` looks for a tag in the list of fields.  The code looks with an
    iterator over a packed table, which every message and every submessage has one
    of, which starts where the last field has left it, and which comes back from
    a tag that nobody knows.  `decoder_refined` says that it makes no difference:
    whatever the bytes are, the two accept the same and give the same. -/

namespace PbDecoder

open PbFieldInfo PbIterator PbStream PbMessage PbDecode

/-! ## The decoder -/

/-- A message being decoded: the structure, the iterator, and whether
    `extension_range_start` is set. -/
abbrev Progress (V : Type) : Type := V × PbFieldIter PbMsgdesc × Bool

/-- One turn of `pb_decode_inner` behind the tag.  There are no extensions, so
    that what no field has is skipped. -/
def iterReader {V : Type} (table : PbMsgdescTable PbMsgdesc)
    (decodeField : Nat → BitVec 3 → V → List UInt8 →
      Except String (V × List UInt8)) : FieldReader (Progress V) :=
  fun tag wireType w stream =>
    let p := table.pbFieldIterFind w.2.1 tag
    if p.1 = false ∨ isExtension p.2.type = true then
      let it :=
        if w.2.2 then p.2 else (table.pbFieldIterFindExtension p.2).2
      (pbSkipField stream wireType).map fun rest => ((w.1, it, true), rest)
    else
      (decodeField p.2.index wireType w.1 stream).map fun r =>
        ((r.1, p.2, w.2.2), r.2)

/-- `decode_field`, for the field where the iterator is.  `tables` are the field
    lists of the messages. -/
def decodeAt (tables : PbMsgdesc → List (Entry PbMsgdesc)) :
    (d : PbMsgdesc) → Nat → BitVec 3 → d.Val → List UInt8 →
      Except String (d.Val × List UInt8)
  | .nil, _, _, v, stream => .ok (v, stream)
  | .field _ type _, 0, wireType, v, stream => do
      let (x, stream) ← decodeBasicField type wireType stream
      return ((x, v.2), stream)
  | .field _ _ rest, i + 1, wireType, v, stream => do
      let (r, stream) ← decodeAt tables rest i wireType v.2 stream
      return ((v.1, r), stream)
  | .submsg _ d _, 0, wireType, v, stream =>
      if wireType ≠ wtString then .error "wrong wire type"
      else do
        let (substream, stream) ← pbMakeStringSubstream stream
        let x ← (pbDecodeAll
          (iterReader (pbBind (tables d)) (decodeAt tables d)) substream
          (v.1.2, (pbBind (tables d)).pbFieldIterBegin.2, false)).map Prod.fst
        return (((true, x), v.2), stream)
  | .submsg _ _ rest, i + 1, wireType, v, stream => do
      let (r, stream) ← decodeAt tables rest i wireType v.2 stream
      return ((v.1, r), stream)

/-- `pb_decode`, with the iterator. -/
def pbDecodeIter (tables : PbMsgdesc → List (Entry PbMsgdesc)) (d : PbMsgdesc)
    (stream : List UInt8) (dest : d.Val) : Except String d.Val :=
  (pbDecodeAll (iterReader (pbBind (tables d)) (decodeAt tables d)) stream
    (pbMessageSetToDefaults d dest, (pbBind (tables d)).pbFieldIterBegin.2,
      false)).map Prod.fst

/-! ## Tables of messages -/

/-- The `type` of a field: static, singular, and the type of its value. -/
def typeCode : PbType → Nat
  | .bool => 0x10
  | .int32 _ => 0x11
  | .uint32 _ => 0x12
  | .uenum _ => 0x12
  | .float => 0x14
  | .bytes _ => 0x16

/-- The `data_size` of a field. -/
def dataSizeOf : PbType → Nat
  | .bool => 1
  | .int32 n => n.bits / 8
  | .uint32 n => n.bits / 8
  | .uenum n => n.bits / 8
  | .float => 4
  | .bytes max => bytesDataSize max

/-- The field list is that of the message. -/
def Describes : PbMsgdesc → List (Entry PbMsgdesc) → Prop
  | .nil, [] => True
  | .field tag type rest, e :: E =>
      e.info.tag = tag ∧ e.info.type = typeCode type
        ∧ e.info.dataSize = dataSizeOf type ∧ Describes rest E
  | .submsg tag d rest, e :: E =>
      e.info.tag = tag ∧ e.info.type = 0x18 ∧ e.submsg = some d
        ∧ Describes rest E
  | _, _ => False

/-- What has been compiled: the field list is that of the message, and the
    assertions on its fields hold. -/
structure Compiled (d : PbMsgdesc) (E : List (Entry PbMsgdesc)) : Prop where
  describes : Describes d E
  entries : ∀ e ∈ E, e.Valid

/-- The same for its submessages. -/
def SubmsgsCompiled (tables : PbMsgdesc → List (Entry PbMsgdesc)) :
    PbMsgdesc → Prop
  | .nil => True
  | .field _ _ rest => SubmsgsCompiled tables rest
  | .submsg _ d rest =>
      Compiled d (tables d) ∧ SubmsgsCompiled tables d
        ∧ SubmsgsCompiled tables rest

/-- What the generator sees to: fields in the order of their tags, and not so
    many that `pb_size_t` cannot count their words. -/
def Sorted (d : PbMsgdesc) : Prop :=
  d.tags.Pairwise (· < ·) ∧ 8 * d.tags.length < 65535

instance (d : PbMsgdesc) : Decidable (Sorted d) :=
  inferInstanceAs (Decidable (_ ∧ _))

/-- The same for its submessages. -/
def SubmsgsSorted : PbMsgdesc → Prop
  | .nil => True
  | .field _ _ rest => SubmsgsSorted rest
  | .submsg _ d rest => Sorted d ∧ SubmsgsSorted d ∧ SubmsgsSorted rest

instance decidableSubmsgsSorted : (d : PbMsgdesc) → Decidable (SubmsgsSorted d)
  | .nil => inferInstanceAs (Decidable True)
  | .field _ _ rest => decidableSubmsgsSorted rest
  | .submsg _ d rest =>
      have := decidableSubmsgsSorted d
      have := decidableSubmsgsSorted rest
      inferInstanceAs (Decidable (Sorted d ∧ SubmsgsSorted d
        ∧ SubmsgsSorted rest))

theorem tags_eq {d : PbMsgdesc} {E : List (Entry PbMsgdesc)}
    (h : Describes d E) : (E.map fun e => e.info.tag) = d.tags := by
  induction d generalizing E with
  | nil =>
      cases E with
      | nil => rfl
      | cons e E => exact h.elim
  | field tag type rest ih =>
      cases E with
      | nil => exact h.elim
      | cons e E =>
          obtain ⟨htag, -, -, hrest⟩ := h
          rw [List.map_cons, ih hrest, htag]
          rfl
  | submsg tag d rest ihd ih =>
      cases E with
      | nil => exact h.elim
      | cons e E =>
          obtain ⟨htag, -, -, hrest⟩ := h
          rw [List.map_cons, ih hrest, htag]
          rfl

theorem hasTag_iff {d : PbMsgdesc} {E : List (Entry PbMsgdesc)}
    (h : Describes d E) (tag j : Nat) :
    HasTag E tag j ↔ d.tags[j]? = some tag := by
  rw [← tags_eq h, List.getElem?_map, Option.map_eq_some_iff]
  exact Iff.rfl

theorem nodup_tags {d : PbMsgdesc} (h : Sorted d) : d.tags.Nodup :=
  h.1.imp Nat.ne_of_lt

theorem isExtension_typeCode (type : PbType) :
    isExtension (typeCode type) = false := by
  have hcodes : ∀ code ∈ [0x10, 0x11, 0x12, 0x14, 0x16],
      isExtension code = false := by decide
  refine hcodes (typeCode type) ?_
  cases type <;> simp [typeCode]

theorem noExtension_of_describes {d : PbMsgdesc}
    {E : List (Entry PbMsgdesc)} (h : Describes d E) :
    ∀ e ∈ E, isExtension e.info.type = false := by
  induction d generalizing E with
  | nil =>
      cases E with
      | nil => exact fun e he => nomatch he
      | cons e E => exact h.elim
  | field tag type rest ih =>
      cases E with
      | nil => exact h.elim
      | cons e E =>
          obtain ⟨-, htype, -, hrest⟩ := h
          intro f hf
          rcases List.mem_cons.mp hf with rfl | hf
          · rw [htype]
            exact isExtension_typeCode type
          · exact ih hrest f hf
  | submsg tag d rest ihd ih =>
      cases E with
      | nil => exact h.elim
      | cons e E =>
          obtain ⟨-, htype, -, hrest⟩ := h
          intro f hf
          rcases List.mem_cons.mp hf with rfl | hf
          · rw [htype]
            rfl
          · exact ih hrest f hf

theorem length_words_le (E : List (Entry PbMsgdesc)) :
    (words E).length ≤ 8 * E.length := by
  induction E with
  | nil => exact Nat.le_refl 0
  | cons e E ih =>
      have hle : (fieldinfo e.width e.info).length ≤ 8 := by
        rw [length_fieldinfo]
        cases e.width <;> decide
      show (fieldinfo e.width e.info ++ words E).length ≤ 8 * (E.length + 1)
      rw [List.length_append]
      omega

/-- Such a table is one that the iterator can be used with. -/
theorem Compiled.validTable {d : PbMsgdesc} {E : List (Entry PbMsgdesc)}
    (h : Compiled d E) (hsorted : Sorted d) : ValidTable E := by
  have htags := tags_eq h.describes
  have hlength : E.length = d.tags.length := by
    rw [← htags, List.length_map]
  have hwords := length_words_le E
  obtain ⟨hascending, hfew⟩ := hsorted
  refine ⟨h.entries, ?_, by omega, noExtension_of_describes h.describes⟩
  rw [htags]
  exact hascending

/-! ## The loop over a stream -/

/-- A reader that carries more than the structure makes the same structure. -/
theorem pbDecodeAll_simulates {V W : Type} {read' : FieldReader W}
    {read : FieldReader V} {f : W → V} {I : W → Prop}
    (hsim : ∀ tag wireType w stream, tag ≠ 0 → I w →
      (read' tag wireType w stream).map (fun p => (f p.1, p.2))
        = read tag wireType (f w) stream)
    (hinv : ∀ tag wireType w stream w' rest, tag ≠ 0 → I w →
      read' tag wireType w stream = .ok (w', rest) → I w')
    (stream : List UInt8) {w : W} (hw : I w) :
    (pbDecodeAll read' stream w).map f = pbDecodeAll read stream (f w) := by
  have hloop : ∀ turns (stream : List UInt8) (w : W), I w →
      (pbDecodeLoop read' turns stream w).map f
        = pbDecodeLoop read turns stream (f w) := by
    intro turns
    induction turns with
    | zero =>
        intro stream w _
        cases stream <;> rfl
    | succ turns ih =>
        intro stream w hw
        cases stream with
        | nil => rfl
        | cons b tail =>
            rw [pbDecodeLoop, pbDecodeLoop]
            cases pbDecodeTag (b :: tail) with
            | error e => rfl
            | ok p =>
                obtain ⟨⟨wireType, tag⟩, left⟩ := p
                show (if tag = 0 then _ else _ : Except String W).map f
                  = if tag = 0 then _ else _
                by_cases hzero : tag = 0
                · rw [if_pos hzero, if_pos hzero]
                  rfl
                · rw [if_neg hzero, if_neg hzero]
                  have hread := hsim tag wireType w left hzero hw
                  cases hr : read' tag wireType w left with
                  | error e =>
                      rw [hr] at hread
                      rw [← hread]
                      rfl
                  | ok q =>
                      rw [hr] at hread
                      rw [← hread]
                      exact ih _ _ (hinv _ _ _ _ _ _ hzero hw hr)
  exact hloop _ _ _ hw

theorem pbDecodeField_skips (d : PbMsgdesc) {tag : Nat} (htag : tag ∉ d.tags)
    (wireType : BitVec 3) (v : d.Val) (stream : List UInt8) :
    pbDecodeField d tag wireType v stream
      = (pbSkipField stream wireType).map fun rest => (v, rest) := by
  cases hskip : pbSkipField stream wireType with
  | ok rest => exact pbDecodeField_unknown d htag hskip v
  | error e =>
      induction d with
      | nil =>
          rw [pbDecodeField, hskip]
          rfl
      | field t type rest ih =>
          have hne : tag ≠ t := fun h => htag (h ▸ List.mem_cons_self)
          rw [pbDecodeField, if_neg hne,
            ih (fun h => htag (List.mem_cons_of_mem _ h)) v.2]
          rfl
      | submsg t d rest ihd ih =>
          have hne : tag ≠ t := fun h => htag (h ▸ List.mem_cons_self)
          rw [pbDecodeField, if_neg hne,
            ih (fun h => htag (List.mem_cons_of_mem _ h)) v.2]
          rfl

/-! ## The iterator between two fields -/

/-- The iterator of a message without fields stays as `memset` has left it. -/
def Ready (E : List (Entry PbMsgdesc)) (it : PbFieldIter PbMsgdesc) : Prop :=
  (E = [] ∧ it = PbMsgdescTable.zeroIter) ∨ ∃ k, Loaded E k it

theorem begin_ready {E : List (Entry PbMsgdesc)} (hE : ValidTable E) :
    Ready E (pbBind E).pbFieldIterBegin.2 := by
  by_cases hne : E = []
  · subst hne
    exact Or.inl ⟨rfl, rfl⟩
  · exact Or.inr ⟨0, (begin_loaded hE hne).2⟩

/-- For a tag that the message has. -/
theorem find_ready_hit {E : List (Entry PbMsgdesc)} (hE : ValidTable E)
    {tag j : Nat} {it : PbFieldIter PbMsgdesc} (hit : Ready E it)
    (htag : HasTag E tag j) :
    ((pbBind E).pbFieldIterFind it tag).1 = true
      ∧ Loaded E j ((pbBind E).pbFieldIterFind it tag).2 := by
  rcases hit with ⟨rfl, -⟩ | ⟨k, hit⟩
  · obtain ⟨e, he, -⟩ := htag
    exact nomatch he
  · exact find_hit hE hit htag

/-- And for one that it does not have. -/
theorem find_ready_miss {E : List (Entry PbMsgdesc)} (hE : ValidTable E)
    {tag : Nat} {it : PbFieldIter PbMsgdesc} (hpos : tag ≠ 0)
    (hit : Ready E it) (hnone : ∀ j, ¬ HasTag E tag j) :
    ((pbBind E).pbFieldIterFind it tag).1 = false
      ∧ Ready E ((pbBind E).pbFieldIterFind it tag).2
      ∧ Ready E ((pbBind E).pbFieldIterFindExtension
          ((pbBind E).pbFieldIterFind it tag).2).2 := by
  rcases hit with ⟨rfl, rfl⟩ | ⟨k, hit⟩
  · have hfind : (pbBind ([] : List (Entry PbMsgdesc))).pbFieldIterFind
        PbMsgdescTable.zeroIter tag = (false, PbMsgdescTable.zeroIter) := by
      rw [PbMsgdescTable.pbFieldIterFind, if_neg (fun h => hpos h.symm)]
      exact if_pos (Nat.pos_of_ne_zero hpos)
    rw [hfind]
    exact ⟨rfl, Or.inl ⟨rfl, rfl⟩, Or.inl ⟨rfl, rfl⟩⟩
  · obtain ⟨hfalse, hloaded⟩ := find_miss hE hit hnone
    exact ⟨hfalse, Or.inr ⟨k, hloaded⟩,
      Or.inr ⟨k, (findExtension_miss hE hloaded).2⟩⟩

variable {tables : PbMsgdesc → List (Entry PbMsgdesc)}

/-- One turn, given that `decode_field` is right. -/
theorem iterReader_simulates {d : PbMsgdesc} (hE : ValidTable (tables d))
    (hdesc : Describes d (tables d))
    (hdecode : ∀ j tag wireType v stream, d.tags[j]? = some tag →
      decodeAt tables d j wireType v stream
        = pbDecodeField d tag wireType v stream)
    {tag : Nat} (hpos : tag ≠ 0) (wireType : BitVec 3) (w : Progress d.Val)
    (stream : List UInt8) (hw : Ready (tables d) w.2.1) :
    (iterReader (pbBind (tables d)) (decodeAt tables d) tag wireType w
        stream).map (fun p => (p.1.1, p.2))
      = pbDecodeField d tag wireType w.1 stream
    ∧ ∀ w' rest, iterReader (pbBind (tables d)) (decodeAt tables d) tag wireType
        w stream = .ok (w', rest) → Ready (tables d) w'.2.1 := by
  by_cases hhas : ∃ j, HasTag (tables d) tag j
  · obtain ⟨j, hj⟩ := hhas
    obtain ⟨hfound, hloaded⟩ := find_ready_hit hE hw hj
    have hfield : ¬ (((pbBind (tables d)).pbFieldIterFind w.2.1 tag).1 = false
        ∨ isExtension ((pbBind (tables d)).pbFieldIterFind w.2.1 tag).2.type
          = true) := by
      obtain ⟨-, e, he, hholds⟩ := hloaded
      rw [hfound, hholds.type, hE.noExtension e (List.mem_of_getElem? he)]
      decide
    rw [iterReader, if_neg hfield, hloaded.1.1,
      hdecode j tag wireType w.1 stream ((hasTag_iff hdesc tag j).mp hj)]
    cases hread : pbDecodeField d tag wireType w.1 stream with
    | error e => exact ⟨rfl, fun w' rest h => nomatch h⟩
    | ok r =>
        refine ⟨rfl, fun w' rest h => ?_⟩
        have hw' : (r.1, _, w.2.2) = w' := congrArg Prod.fst (Except.ok.inj h)
        rw [← hw']
        exact Or.inr ⟨j, hloaded⟩
  · have hnone : ∀ j, ¬ HasTag (tables d) tag j := fun j hj => hhas ⟨j, hj⟩
    obtain ⟨hmissed, hready, hready'⟩ := find_ready_miss hE hpos hw hnone
    have hunknown : tag ∉ d.tags := by
      intro hmem
      obtain ⟨j, hj⟩ := List.mem_iff_getElem?.mp hmem
      exact hnone j ((hasTag_iff hdesc tag j).mpr hj)
    rw [iterReader, if_pos (Or.inl hmissed), pbDecodeField_skips d hunknown]
    cases pbSkipField stream wireType with
    | error e => exact ⟨rfl, fun w' rest h => nomatch h⟩
    | ok left =>
        refine ⟨rfl, fun w' rest h => ?_⟩
        have hw' : (w.1, _, true) = w' := congrArg Prod.fst (Except.ok.inj h)
        rw [← hw']
        show Ready _ (if w.2.2 = true then _ else _)
        split
        · exact hready
        · exact hready'

/-- A whole message, given that `decode_field` is right. -/
theorem iterReader_all {d : PbMsgdesc} (hE : ValidTable (tables d))
    (hdesc : Describes d (tables d))
    (hdecode : ∀ j tag wireType v stream, d.tags[j]? = some tag →
      decodeAt tables d j wireType v stream
        = pbDecodeField d tag wireType v stream)
    (stream : List UInt8) (v : d.Val) :
    (pbDecodeAll (iterReader (pbBind (tables d)) (decodeAt tables d)) stream
        (v, (pbBind (tables d)).pbFieldIterBegin.2, false)).map Prod.fst
      = pbDecodeAll (pbDecodeField d) stream v :=
  pbDecodeAll_simulates (f := Prod.fst)
    (I := fun w : Progress d.Val => Ready (tables d) w.2.1)
    (fun _ wireType w stream hpos hw =>
      (iterReader_simulates hE hdesc hdecode hpos wireType w stream hw).1)
    (fun _ wireType w stream w' rest hpos hw =>
      (iterReader_simulates hE hdesc hdecode hpos wireType w stream hw).2 w'
        rest)
    stream (begin_ready hE)

/-- The field at the index where the iterator is, and the field with the tag. -/
theorem decodeAt_eq {d : PbMsgdesc} (hcompiled : SubmsgsCompiled tables d)
    (hsorted : SubmsgsSorted d) (hnodup : d.tags.Nodup) :
    ∀ j tag wireType v stream, d.tags[j]? = some tag →
      decodeAt tables d j wireType v stream
        = pbDecodeField d tag wireType v stream := by
  induction d with
  | nil => exact fun j _ _ _ _ h => nomatch h
  | field t type rest ih =>
      intro j tag wireType v stream hj
      obtain ⟨hfresh, hnodup⟩ := List.nodup_cons.mp hnodup
      cases j with
      | zero =>
          have ht : t = tag := Option.some.inj hj
          rw [decodeAt, pbDecodeField, if_pos ht.symm]
      | succ j =>
          have hmem : tag ∈ rest.tags := List.mem_of_getElem? hj
          have hne : tag ≠ t := fun h => hfresh (h ▸ hmem)
          rw [decodeAt, pbDecodeField, if_neg hne,
            ih hcompiled hsorted hnodup j tag wireType v.2 stream hj]
  | submsg t d rest ihd ih =>
      intro j tag wireType v stream hj
      obtain ⟨hsub, hd, hrest⟩ := hcompiled
      obtain ⟨hsubSorted, hdSorted, hrestSorted⟩ := hsorted
      obtain ⟨hfresh, hnodup⟩ := List.nodup_cons.mp hnodup
      cases j with
      | zero =>
          have ht : t = tag := Option.some.inj hj
          rw [decodeAt, pbDecodeField, if_pos ht.symm]
          have hfields := ihd hd hdSorted (nodup_tags hsubSorted)
          simp only [iterReader_all (hsub.validTable hsubSorted) hsub.describes
            hfields]
      | succ j =>
          have hmem : tag ∈ rest.tags := List.mem_of_getElem? hj
          have hne : tag ≠ t := fun h => hfresh (h ▸ hmem)
          rw [decodeAt, pbDecodeField, if_neg hne,
            ih hrest hrestSorted hnodup j tag wireType v.2 stream hj]

/-- **THE DECODER WITH ITS ITERATORS** is the one that searches the list of
    fields: on all bytes, with their errors. -/
theorem decoder_refined {d : PbMsgdesc} (hcompiled : Compiled d (tables d))
    (hsubmsgs : SubmsgsCompiled tables d) (hsorted : Sorted d)
    (hsubmsgsSorted : SubmsgsSorted d) (stream : List UInt8) (dest : d.Val) :
    pbDecodeIter tables d stream dest = pbDecode d stream dest :=
  iterReader_all (hcompiled.validTable hsorted) hcompiled.describes
    (decodeAt_eq hsubmsgs hsubmsgsSorted (nodup_tags hsorted)) stream _

/-- A flag, and a submessage behind its own flag, with a number. -/
def sampleTables (d : PbMsgdesc) : List (Entry PbMsgdesc) :=
  if d = PbExchange.sampleDesc then
    [⟨.one, ⟨1, 0x10, 0, 1, 0, 1⟩, none⟩,
      ⟨.two, ⟨2, 0x18, 4, 4, 3, 1⟩, some (.field 1 (.uint32 .four) .nil)⟩]
  else [⟨.one, ⟨1, 0x12, 0, 4, 0, 1⟩, none⟩]

/-- The submessage before the flag, and a tag that nobody knows. -/
theorem decoder_refined_sample :
    pbDecodeIter sampleTables PbExchange.sampleDesc
        [0x12, 0x02, 0x08, 0x05, 0x38, 0x01, 0x08, 0x01]
        PbExchange.sampleDesc.zero
      = pbDecode PbExchange.sampleDesc
        [0x12, 0x02, 0x08, 0x05, 0x38, 0x01, 0x08, 0x01]
        PbExchange.sampleDesc.zero :=
  @decoder_refined sampleTables PbExchange.sampleDesc
    ⟨⟨rfl, rfl, rfl, rfl, rfl, rfl, trivial⟩, by decide⟩
    ⟨⟨⟨rfl, rfl, rfl, trivial⟩, by decide⟩, trivial, trivial⟩ (by decide)
    (by decide) _ _

end PbDecoder
