import Mathlib.Data.List.Forall2
import UspZephyr.RingSearchProofs
import UspZephyr.PbFieldInfoProofs

/-! # The field iterator of nanopb

    `pb_field_iter_find` looks for a tag in the table of a message, from the field
    where the iterator stands and around, by a comparison of six bits first.
    `Loaded` is the invariant of the iterator: it is at a field, and has the
    values of this field.  `find_hit` and `find_miss` are the search, from
    wherever an earlier one has ended; `lookups_answered` is a run of searches,
    and `walk_visits` the loop over all fields with `pb_field_iter_next`. -/

namespace PbIterator

open RingSearch PbFieldInfo

/-! ## Types of fields -/

/-- `PB_LTYPE`. -/
def pbLtype (type : Nat) : Nat := type &&& 0x0F

/-- `PB_HTYPE`. -/
def pbHtype (type : Nat) : Nat := type &&& 0x30

/-- `PB_ATYPE`. -/
def pbAtype (type : Nat) : Nat := type &&& 0xC0

/-- `PB_LTYPE_IS_SUBMSG`. -/
def pbLtypeIsSubmsg (type : Nat) : Bool :=
  pbLtype type == 0x08 || pbLtype type == 0x09

/-- `PB_HTYPE_REQUIRED`. -/
def isRequired (type : Nat) : Bool := pbHtype type == 0x00

/-- `PB_LTYPE_EXTENSION`. -/
def isExtension (type : Nat) : Bool := pbLtype type == 0x0A

/-! ## The table and the iterator -/

variable {D : Type}

/-- `pb_msgdesc_t`, as it is in memory; `D` are the descriptors of
    submessages. -/
structure PbMsgdescTable (D : Type) where
  fieldInfo : List Nat
  submsgInfo : List D
  fieldCount : Nat
  largestTag : Nat

/-- What `pSize` of the iterator points to: to a place in the structure, or to
    the `array_size` of the iterator. -/
inductive PSize where
  | null
  | inMessage (offset : Int)
  | arraySize
  deriving DecidableEq, Repr

/-- `pb_field_iter_t`.  Pointers into the structure are offsets. -/
structure PbFieldIter (D : Type) where
  index : Nat
  fieldInfoIndex : Nat
  requiredFieldIndex : Nat
  submessageIndex : Nat
  tag : Nat
  dataSize : Nat
  arraySize : Nat
  type : Nat
  pField : Option Nat
  pSize : PSize
  submsgDesc : Option D

/-- Where `pSize` points to for a field. -/
def pSizeOf (f : FieldInfo) : PSize :=
  if f.sizeOffset ≠ 0 then .inMessage (f.dataOffset - f.sizeOffset)
  else if pbHtype f.type = 0x20
    ∧ (pbAtype f.type = 0x00 ∨ pbAtype f.type = 0x80) then .arraySize
  else .null

namespace PbMsgdescTable

variable (d : PbMsgdescTable D)

/-- A word of the table. -/
def word (i : Nat) : Nat := d.fieldInfo.getD i 0

/-- `load_descriptor_values`. -/
def loadDescriptorValues (it : PbFieldIter D) : Bool × PbFieldIter D :=
  if d.fieldCount ≤ it.index then (false, it)
  else
    let f := fieldAt fun j => d.word (it.fieldInfoIndex + j)
    (true,
      { it with
        tag := f.tag
        dataSize := f.dataSize
        arraySize := f.arraySize
        type := f.type
        pField := some f.dataOffset
        pSize := pSizeOf f
        submsgDesc :=
          if pbLtypeIsSubmsg f.type then d.submsgInfo[it.submessageIndex]?
          else none })

/-- `advance_iterator`. -/
def advanceIterator (it : PbFieldIter D) : PbFieldIter D :=
  let index := (it.index + 1) % 65536
  if d.fieldCount ≤ index then
    { it with
      index := 0
      fieldInfoIndex := 0
      submessageIndex := 0
      requiredFieldIndex := 0 }
  else
    let prevDescriptor := d.word it.fieldInfoIndex
    let prevType := (prevDescriptor >>> 8) &&& 0xFF
    let descriptorLen := 1 <<< (prevDescriptor &&& 3)
    { it with
      index := index
      fieldInfoIndex := (it.fieldInfoIndex + descriptorLen) % 65536
      requiredFieldIndex :=
        (it.requiredFieldIndex + (isRequired prevType).toNat) % 65536
      submessageIndex :=
        (it.submessageIndex + (pbLtypeIsSubmsg prevType).toNat) % 65536 }

/-- What `memset` makes of the iterator. -/
def zeroIter : PbFieldIter D :=
  { index := 0, fieldInfoIndex := 0, requiredFieldIndex := 0
    submessageIndex := 0, tag := 0, dataSize := 0, arraySize := 0, type := 0
    pField := none, pSize := .null, submsgDesc := none }

/-- `pb_field_iter_begin`, for a structure. -/
def pbFieldIterBegin : Bool × PbFieldIter D := d.loadDescriptorValues zeroIter

/-- `pb_field_iter_next`. -/
def pbFieldIterNext (it : PbFieldIter D) : Bool × PbFieldIter D :=
  let it := (d.loadDescriptorValues (d.advanceIterator it)).2
  (it.index != 0, it)

/-- The look at a field in `pb_field_iter_find`. -/
def probeTag (tag : Nat) (it : PbFieldIter D) : Bool × PbFieldIter D :=
  if (d.word it.fieldInfoIndex >>> 2) &&& 0x3F = tag &&& 0x3F then
    let it := (d.loadDescriptorValues it).2
    (it.tag == tag && !isExtension it.type, it)
  else (false, it)

/-- The look at a field in `pb_field_iter_find_extension`. -/
def probeExtension (it : PbFieldIter D) : Bool × PbFieldIter D :=
  if isExtension ((d.word it.fieldInfoIndex >>> 8) &&& 0xFF) then
    d.loadDescriptorValues it
  else (false, it)

/-- The loop of both, and what follows when it finds nothing. -/
def searchFields (probe : PbFieldIter D → Bool × PbFieldIter D) (start : Nat)
    (it : PbFieldIter D) : Bool × PbFieldIter D :=
  let p := search d.advanceIterator probe PbFieldIter.index start
    (d.fieldCount + 1) it
  if p.1 then p else (false, (d.loadDescriptorValues p.2).2)

/-- `pb_field_iter_find`. -/
def pbFieldIterFind (it : PbFieldIter D) (tag : Nat) : Bool × PbFieldIter D :=
  if it.tag = tag then (true, it)
  else if d.largestTag < tag then (false, it)
  else
    d.searchFields (d.probeTag tag) it.index
      (if tag < it.tag then { it with index := d.fieldCount } else it)

/-- `pb_field_iter_find_extension`. -/
def pbFieldIterFindExtension (it : PbFieldIter D) : Bool × PbFieldIter D :=
  if isExtension it.type then (true, it)
  else d.searchFields d.probeExtension it.index it

end PbMsgdescTable

/-! ## The table of a list of fields -/

/-- A line of the field list of a message; `submsg` is its line in
    `submsg_info`. -/
structure Entry (D : Type) where
  width : Width
  info : FieldInfo
  submsg : Option D

structure Entry.Valid (e : Entry D) : Prop where
  declared : e.info.Declared
  fits : fieldinfoAssert e.width e.info
  submsg : pbLtypeIsSubmsg e.info.type = e.submsg.isSome

instance (e : Entry D) : Decidable e.Valid :=
  decidable_of_iff (e.info.Declared ∧ fieldinfoAssert e.width e.info
      ∧ pbLtypeIsSubmsg e.info.type = e.submsg.isSome)
    ⟨fun h => ⟨h.1, h.2.1, h.2.2⟩, fun h => ⟨h.1, h.2, h.3⟩⟩

/-- The entries of `field_info`. -/
def words (E : List (Entry D)) : List Nat :=
  E.flatMap fun e => fieldinfo e.width e.info

/-- `PB_BIND`.  `PB_GEN_LARGEST_TAG` gives the last tag. -/
def pbBind (E : List (Entry D)) : PbMsgdescTable D :=
  { fieldInfo := words E ++ [0]
    submsgInfo := E.filterMap Entry.submsg
    fieldCount := E.length
    largestTag := (E.map fun e => e.info.tag).getLastD 0 }

theorem fieldCount_pbBind (E : List (Entry D)) :
    (pbBind E).fieldCount = E.length := rfl

/-- What the generator sees to: tags in ascending order, and a table whose
    entries `pb_size_t` can count.  No message of the modem has extensions. -/
structure ValidTable (E : List (Entry D)) : Prop where
  entries : ∀ e ∈ E, e.Valid
  ascending : (E.map fun e => e.info.tag).Pairwise (· < ·)
  small : (words E).length < 65535
  noExtension : ∀ e ∈ E, isExtension e.info.type = false

theorem words_append (E F : List (Entry D)) :
    words (E ++ F) = words E ++ words F :=
  List.flatMap_append

/-! ## Where a field is in the table -/

theorem split_at {E : List (Entry D)} {k : Nat} {e : Entry D}
    (he : E[k]? = some e) : E = E.take k ++ e :: E.drop (k + 1) := by
  obtain ⟨hk, rfl⟩ := List.getElem?_eq_some_iff.mp he
  rw [← List.drop_eq_getElem_cons hk, List.take_append_drop]

theorem take_succ_of_eq {E : List (Entry D)} {k : Nat} {e : Entry D}
    (he : E[k]? = some e) : E.take (k + 1) = E.take k ++ [e] := by
  rw [List.take_add_one, he]
  rfl

/-- A field takes at least one word. -/
theorem length_le_words (E : List (Entry D)) : E.length ≤ (words E).length := by
  induction E with
  | nil => exact Nat.le_refl 0
  | cons e E ih =>
      have hpos := fieldinfo_pos e.width e.info
      show E.length + 1 ≤ (fieldinfo e.width e.info ++ words E).length
      rw [List.length_append]
      omega

theorem length_words_take {E : List (Entry D)} {k : Nat} {e : Entry D}
    (he : E[k]? = some e) :
    (words (E.take k)).length + (fieldinfo e.width e.info).length
      ≤ (words E).length := by
  have h : words E = words (E.take k)
      ++ (fieldinfo e.width e.info ++ words (E.drop (k + 1))) := by
    rw [congrArg words (split_at he), words_append]
    rfl
  rw [h, List.length_append, List.length_append]
  omega

/-- The words of the field at `k`, in the table. -/
theorem word_pbBind {E : List (Entry D)} {k : Nat} {e : Entry D}
    (he : E[k]? = some e) {j : Nat}
    (hj : j < (fieldinfo e.width e.info).length) :
    (pbBind E).word ((words (E.take k)).length + j)
      = (fieldinfo e.width e.info).getD j 0 := by
  have h : words E ++ [0] = words (E.take k)
      ++ (fieldinfo e.width e.info ++ (words (E.drop (k + 1)) ++ [0])) := by
    rw [congrArg words (split_at he), words_append, List.append_assoc]
    exact congrArg _ (List.append_assoc _ _ _)
  show (words E ++ [0]).getD _ 0 = _
  rw [h, List.getD_eq_getElem?_getD, List.getD_eq_getElem?_getD,
    List.getElem?_append_right (Nat.le_add_right _ _), Nat.add_sub_cancel_left,
    List.getElem?_append_left hj]

/-- And its submessage, in `submsg_info`. -/
theorem submsg_pbBind {E : List (Entry D)} {k : Nat} {e : Entry D}
    (he : E[k]? = some e) (hsome : e.submsg.isSome = true) :
    (pbBind E).submsgInfo[((E.take k).filterMap Entry.submsg).length]?
      = e.submsg := by
  obtain ⟨m, hm⟩ := Option.isSome_iff_exists.mp hsome
  have h : E.filterMap Entry.submsg = (E.take k).filterMap Entry.submsg
      ++ m :: (E.drop (k + 1)).filterMap Entry.submsg := by
    have hcons : (e :: E.drop (k + 1)).filterMap Entry.submsg
        = m :: (E.drop (k + 1)).filterMap Entry.submsg :=
      List.filterMap_cons_some hm
    rw [← hcons, ← List.filterMap_append, ← split_at he]
  show (E.filterMap Entry.submsg)[_]? = _
  rw [h, List.getElem?_append_right (Nat.le_refl _), Nat.sub_self, hm]
  rfl

/-! ## Positions of the iterator -/

/-- The indexes that go with the field at `k`. -/
structure Indexes (E : List (Entry D)) (k : Nat) (it : PbFieldIter D) :
    Prop where
  fieldInfo : it.fieldInfoIndex = (words (E.take k)).length
  required : it.requiredFieldIndex
    = ((E.take k).filter fun e => isRequired e.info.type).length
  submessage : it.submessageIndex
    = ((E.take k).filterMap Entry.submsg).length

/-- The iterator is at `k`: at a field, or behind the last one, where only the
    index counts. -/
def At (E : List (Entry D)) (k : Nat) (it : PbFieldIter D) : Prop :=
  it.index = k ∧ (k < E.length → Indexes E k it)

/-- It has the values of the field. -/
structure Holds (e : Entry D) (it : PbFieldIter D) : Prop where
  tag : it.tag = e.info.tag
  dataSize : it.dataSize = e.info.dataSize
  arraySize : it.arraySize = e.info.arraySize
  type : it.type = e.info.type
  pField : it.pField = some e.info.dataOffset
  pSize : it.pSize = pSizeOf e.info
  submsgDesc : it.submsgDesc = e.submsg

/-- **THE INVARIANT**: the iterator is at a field and has its values. -/
def Loaded (E : List (Entry D)) (k : Nat) (it : PbFieldIter D) : Prop :=
  At E k it ∧ ∃ e, E[k]? = some e ∧ Holds e it

theorem at_zero (E : List (Entry D)) {it : PbFieldIter D} (hindex : it.index = 0)
    (hinfo : it.fieldInfoIndex = 0) (hreq : it.requiredFieldIndex = 0)
    (hsub : it.submessageIndex = 0) : At E 0 it :=
  ⟨hindex, fun _ => ⟨hinfo, hreq, hsub⟩⟩

variable {E : List (Entry D)}

theorem ValidTable.valid (hE : ValidTable E) {k : Nat} {e : Entry D}
    (he : E[k]? = some e) : e.Valid :=
  hE.entries e (List.mem_of_getElem? he)

/-- What `load_descriptor_values` reads. -/
theorem fieldAt_at (hE : ValidTable E) {k : Nat} {it : PbFieldIter D}
    {e : Entry D} (hindexes : Indexes E k it) (he : E[k]? = some e) :
    (fieldAt fun j => (pbBind E).word (it.fieldInfoIndex + j)) = e.info := by
  refine fieldAt_fieldinfo e.width (hE.valid he).declared (hE.valid he).fits
    fun j hj => ?_
  rw [hindexes.fieldInfo]
  exact word_pbBind he hj

theorem load_at (hE : ValidTable E) {k : Nat} {it : PbFieldIter D} {e : Entry D}
    (hat : At E k it) (he : E[k]? = some e) :
    ((pbBind E).loadDescriptorValues it).1 = true
      ∧ Loaded E k ((pbBind E).loadDescriptorValues it).2 := by
  obtain ⟨hindex, hindexes⟩ := hat
  obtain ⟨hk, -⟩ := List.getElem?_eq_some_iff.mp he
  have hindexes := hindexes hk
  have hcount : ¬ (pbBind E).fieldCount ≤ it.index := by
    show ¬ E.length ≤ it.index
    omega
  rw [PbMsgdescTable.loadDescriptorValues, if_neg hcount]
  dsimp only
  rw [fieldAt_at hE hindexes he]
  refine ⟨rfl, ⟨hindex, fun _ => ⟨hindexes.1, hindexes.2, hindexes.3⟩⟩, e, he,
    ⟨rfl, rfl, rfl, rfl, rfl, rfl, ?_⟩⟩
  show (if pbLtypeIsSubmsg e.info.type = true then _ else none) = e.submsg
  rw [(hE.valid he).submsg, hindexes.submessage]
  cases hsome : e.submsg with
  | none => rfl
  | some m =>
      rw [Option.isSome_some, if_pos rfl, ← hsome]
      exact submsg_pbBind he (by rw [hsome]; rfl)

/-- The first word of the field where the iterator is. -/
theorem word_at {k : Nat} {it : PbFieldIter D} {e : Entry D}
    (hindexes : Indexes E k it) (he : E[k]? = some e) :
    (pbBind E).word it.fieldInfoIndex
      = (fieldinfo e.width e.info).getD 0 0 := by
  have h := word_pbBind he (fieldinfo_pos e.width e.info)
  rw [Nat.add_zero] at h
  rw [hindexes.fieldInfo, h]

/-- One field more in front. -/
theorem length_filter_take_succ (p : Entry D → Bool) {k : Nat} {e : Entry D}
    (he : E[k]? = some e) :
    ((E.take (k + 1)).filter p).length
      = ((E.take k).filter p).length + (p e).toNat := by
  rw [take_succ_of_eq he, List.filter_append, List.length_append]
  cases hp : p e with
  | false => rw [List.filter_cons_of_neg (by rw [hp]; decide)]; rfl
  | true => rw [List.filter_cons_of_pos hp]; rfl

theorem length_filterMap_take_succ {k : Nat} {e : Entry D}
    (he : E[k]? = some e) :
    ((E.take (k + 1)).filterMap Entry.submsg).length
      = ((E.take k).filterMap Entry.submsg).length + e.submsg.isSome.toNat := by
  rw [take_succ_of_eq he, List.filterMap_append, List.length_append]
  cases hm : e.submsg with
  | none => rw [List.filterMap_cons_none hm]; rfl
  | some m => rw [List.filterMap_cons_some hm]; rfl

theorem advance_at (hE : ValidTable E) {k : Nat} {it : PbFieldIter D}
    (hk : k ≤ E.length) (hat : At E k it) :
    At E (next E.length k) ((pbBind E).advanceIterator it) := by
  obtain ⟨hindex, hindexes⟩ := hat
  have hsmall := hE.small
  have hlen := length_le_words E
  have hnowrap : (it.index + 1) % 65536 = k + 1 := by
    rw [hindex]
    exact Nat.mod_eq_of_lt (by omega)
  rw [PbMsgdescTable.advanceIterator, hnowrap, next]
  by_cases hlast : E.length ≤ k + 1
  · rw [if_pos hlast, if_pos (show (pbBind E).fieldCount ≤ k + 1 from hlast)]
    exact at_zero E rfl rfl rfl rfl
  · rw [if_neg hlast,
      if_neg (show ¬ (pbBind E).fieldCount ≤ k + 1 from hlast)]
    have hindexes := hindexes (by omega)
    obtain ⟨e, he⟩ : ∃ e, E[k]? = some e :=
      ⟨_, List.getElem?_eq_getElem (by omega)⟩
    have hvalid := hE.valid he
    have hword := word_at hindexes he
    have hroom := length_words_take he
    have hreq := List.length_filter_le (fun e => isRequired e.info.type)
      (E.take k)
    have hsub := List.length_filterMap_le Entry.submsg (E.take k)
    have htake := List.length_take_le k E
    refine ⟨rfl, fun _ => ⟨?_, ?_, ?_⟩⟩
    · show (it.fieldInfoIndex + 1 <<< ((pbBind E).word it.fieldInfoIndex &&& 3))
        % 65536 = _
      rw [hword, head_length hvalid.declared hvalid.fits, hindexes.fieldInfo,
        take_succ_of_eq he, words_append, List.length_append]
      have hone : words [e] = fieldinfo e.width e.info := List.append_nil _
      rw [hone]
      exact Nat.mod_eq_of_lt (by omega)
    · show (it.requiredFieldIndex + (isRequired (_ &&& 0xFF)).toNat) % 65536 = _
      rw [hword, head_type hvalid.declared hvalid.fits, hindexes.required,
        length_filter_take_succ _ he]
      have hbit := Bool.toNat_le (isRequired e.info.type)
      exact Nat.mod_eq_of_lt (by omega)
    · show (it.submessageIndex + (pbLtypeIsSubmsg (_ &&& 0xFF)).toNat)
        % 65536 = _
      rw [hword, head_type hvalid.declared hvalid.fits, hindexes.submessage,
        hvalid.submsg, length_filterMap_take_succ he]
      have hbit := Bool.toNat_le e.submsg.isSome
      exact Nat.mod_eq_of_lt (by omega)

/-! ## The search -/

/-- A field with the tag. -/
def HasTag (E : List (Entry D)) (tag j : Nat) : Prop :=
  ∃ e, E[j]? = some e ∧ e.info.tag = tag

theorem Loaded.lt {k : Nat} {it : PbFieldIter D} (h : Loaded E k it) :
    k < E.length := by
  obtain ⟨-, e, he, -⟩ := h
  exact (List.getElem?_eq_some_iff.mp he).1

theorem ascending (hE : ValidTable E) {i j : Nat} {e f : Entry D}
    (hij : i < j) (he : E[i]? = some e) (hf : E[j]? = some f) :
    e.info.tag < f.info.tag := by
  obtain ⟨hi, rfl⟩ := List.getElem?_eq_some_iff.mp he
  obtain ⟨hj, rfl⟩ := List.getElem?_eq_some_iff.mp hf
  have h := List.pairwise_iff_getElem.mp hE.ascending i j
    (by rw [List.length_map]; exact hi) (by rw [List.length_map]; exact hj) hij
  rwa [List.getElem_map, List.getElem_map] at h

theorem hasTag_unique (hE : ValidTable E) {tag i j : Nat}
    (hi : HasTag E tag i) (hj : HasTag E tag j) : i = j := by
  obtain ⟨e, he, hetag⟩ := hi
  obtain ⟨f, hf, hftag⟩ := hj
  rcases Nat.lt_trichotomy i j with h | h | h
  · have := ascending hE h he hf
    omega
  · exact h
  · have := ascending hE h hf he
    omega

/-- No tag is beyond the one in `largest_tag`. -/
theorem tag_le_largest (hE : ValidTable E) {k : Nat} {e : Entry D}
    (he : E[k]? = some e) : e.info.tag ≤ (pbBind E).largestTag := by
  obtain ⟨hk, -⟩ := List.getElem?_eq_some_iff.mp he
  obtain ⟨f, hf⟩ : ∃ f, E[E.length - 1]? = some f :=
    ⟨_, List.getElem?_eq_getElem (by omega)⟩
  have hlast : (pbBind E).largestTag = f.info.tag := by
    show (E.map fun e => e.info.tag).getLastD 0 = _
    rw [List.getLastD_eq_getLast?, List.getLast?_eq_getElem?, List.length_map,
      List.getElem?_map, hf]
    rfl
  rw [hlast]
  rcases Nat.lt_or_ge k (E.length - 1) with h | h
  · exact Nat.le_of_lt (ascending hE h he hf)
  · have heq : k = E.length - 1 := by omega
    rw [heq, hf] at he
    exact Nat.le_of_eq
      (congrArg (fun e => e.info.tag) (Option.some.inj he).symm)

theorem probeTag_hit (hE : ValidTable E) {tag c : Nat} {it : PbFieldIter D}
    (hc : c < E.length) (htag : HasTag E tag c) (hat : At E c it) :
    ((pbBind E).probeTag tag it).1 = true
      ∧ Loaded E c ((pbBind E).probeTag tag it).2 := by
  obtain ⟨e, he, rfl⟩ := htag
  have hvalid := hE.valid he
  have hload := (load_at hE hat he).2
  have hfast : ((pbBind E).word it.fieldInfoIndex >>> 2) &&& 0x3F
      = e.info.tag &&& 0x3F := by
    rw [word_at (hat.2 hc) he, head_tag hvalid.declared hvalid.fits]
    exact (and_mask e.info.tag 6).symm
  rw [PbMsgdescTable.probeTag, if_pos hfast]
  refine ⟨?_, hload⟩
  obtain ⟨-, f, hf, hholds⟩ := hload
  obtain rfl : e = f := Option.some.inj (he.symm.trans hf)
  show (_ == _ && !isExtension _) = true
  rw [hholds.tag, hholds.type,
    hE.noExtension e (List.mem_of_getElem? he), beq_self_eq_true]
  rfl

theorem probeTag_miss (hE : ValidTable E) {tag c : Nat} {it : PbFieldIter D}
    (hc : c < E.length) (htag : ¬ HasTag E tag c) (hat : At E c it) :
    ((pbBind E).probeTag tag it).1 = false
      ∧ At E c ((pbBind E).probeTag tag it).2 := by
  obtain ⟨e, he⟩ : ∃ e, E[c]? = some e := ⟨_, List.getElem?_eq_getElem hc⟩
  rw [PbMsgdescTable.probeTag]
  split
  · have hload := (load_at hE hat he).2
    refine ⟨?_, hload.1⟩
    obtain ⟨-, f, hf, hholds⟩ := hload
    obtain rfl : e = f := Option.some.inj (he.symm.trans hf)
    -- The six bits are those of another tag.
    have hne : (e.info.tag == tag) = false :=
      beq_eq_false_iff_ne.mpr fun h => htag ⟨e, he, h⟩
    show (_ == _ && _) = false
    rw [hholds.tag, hne, Bool.false_and]
  · exact ⟨rfl, hat⟩

theorem probeExtension_miss (hE : ValidTable E) {c : Nat} {it : PbFieldIter D}
    (hc : c < E.length) (hat : At E c it) :
    ((pbBind E).probeExtension it).1 = false
      ∧ At E c ((pbBind E).probeExtension it).2 := by
  obtain ⟨e, he⟩ : ∃ e, E[c]? = some e := ⟨_, List.getElem?_eq_getElem hc⟩
  have hvalid := hE.valid he
  have hnot : isExtension (((pbBind E).word it.fieldInfoIndex >>> 8) &&& 0xFF)
      = false := by
    rw [word_at (hat.2 hc) he, head_type hvalid.declared hvalid.fits]
    exact hE.noExtension e (List.mem_of_getElem? he)
  rw [PbMsgdescTable.probeExtension, hnot]
  exact ⟨rfl, hat⟩

/-- A search that finds nothing leaves the iterator loaded where it was to
    stop. -/
theorem searchFields_miss (hE : ValidTable E) {start c : Nat}
    (probe : PbFieldIter D → Bool × PbFieldIter D) (Hit : Nat → Prop)
    (hstart : start < E.length)
    (hmiss : ∀ c it, c < E.length → ¬ Hit c → At E c it →
      (probe it).1 = false ∧ At E c (probe it).2)
    {it : PbFieldIter D} (hc : c ≤ E.length) (hat : At E c it)
    (hnone : ∀ j, j < E.length → Visited E.length start c j → ¬ Hit j) :
    ((pbBind E).searchFields probe start it).1 = false
      ∧ Loaded E start ((pbBind E).searchFields probe start it).2 := by
  have h := search_miss probe hstart (fun c it => advance_at hE)
    (fun c it hat => hat.1) hmiss (E.length + 1) hc hat hnone
    (Nat.le_succ_of_le (turns_le hstart c))
  obtain ⟨e, he⟩ : ∃ e, E[start]? = some e :=
    ⟨_, List.getElem?_eq_getElem hstart⟩
  have hfalse : ¬ (search (pbBind E).advanceIterator probe PbFieldIter.index
      start (E.length + 1) it).1 = true := by
    rw [h.1]
    decide
  rw [PbMsgdescTable.searchFields, fieldCount_pbBind, if_neg hfalse]
  exact ⟨rfl, (load_at hE h.2 he).2⟩

/-- **FOUND**: from any field, and whatever was looked for before, a tag of the
    message is found, and the iterator is at its field. -/
theorem find_hit (hE : ValidTable E) {k j tag : Nat} {it : PbFieldIter D}
    (hit : Loaded E k it) (htag : HasTag E tag j) :
    ((pbBind E).pbFieldIterFind it tag).1 = true
      ∧ Loaded E j ((pbBind E).pbFieldIterFind it tag).2 := by
  have hk := hit.lt
  obtain ⟨hat, e, he, hholds⟩ := hit
  rw [PbMsgdescTable.pbFieldIterFind, hholds.tag]
  by_cases hhere : e.info.tag = tag
  · rw [if_pos hhere]
    have hjk : j = k := hasTag_unique hE htag ⟨e, he, hhere⟩
    rw [hjk]
    exact ⟨rfl, hat, e, he, hholds⟩
  · obtain ⟨f, hf, rfl⟩ := htag
    obtain ⟨hj, -⟩ := List.getElem?_eq_some_iff.mp hf
    rw [if_neg hhere, if_neg (Nat.not_lt.mpr (tag_le_largest hE hf)), hat.1]
    have hunique : ∀ i, i < E.length → (HasTag E f.info.tag i ↔ i = j) := by
      intro i hi
      constructor
      · exact fun h => hasTag_unique hE h ⟨f, hf, rfl⟩
      · rintro rfl
        exact ⟨f, hf, rfl⟩
    have hsearch : ∀ c it', c ≤ E.length → At E c it' →
        Visited E.length k c j →
        ((pbBind E).searchFields ((pbBind E).probeTag f.info.tag) k it').1 = true
          ∧ Loaded E j ((pbBind E).searchFields
            ((pbBind E).probeTag f.info.tag) k it').2 := by
      intro c it' hc hat' hvisited
      have h := search_hit ((pbBind E).probeTag f.info.tag) hk
        (fun c it => advance_at hE) (fun c it hat => hat.1)
        (fun c it hc => probeTag_hit hE hc) (fun c it hc => probeTag_miss hE hc)
        hunique (E.length + 1) hc hat' hvisited
        (Nat.le_succ_of_le (turns_le hk c))
      have htrue : (search (pbBind E).advanceIterator
          ((pbBind E).probeTag f.info.tag) PbFieldIter.index k (E.length + 1)
          it').1 = true := h.1
      rw [PbMsgdescTable.searchFields, fieldCount_pbBind, if_pos htrue]
      exact h
    by_cases hbefore : f.info.tag < e.info.tag
    · -- The search begins behind the last field, and passes those up to `k`.
      rw [if_pos hbefore]
      refine hsearch E.length _ (Nat.le_refl _)
        ⟨rfl, fun h => absurd h (Nat.lt_irrefl _)⟩ ?_
      rw [Visited, if_neg (by omega)]
      refine Or.inr (Nat.le_of_not_lt fun hkj => ?_)
      have := ascending hE hkj he hf
      omega
    · rw [if_neg hbefore]
      refine hsearch k it (Nat.le_of_lt hk) hat ?_
      rw [Visited, if_neg (Nat.lt_irrefl k)]
      omega

/-- **NOT FOUND**: for a tag that the message does not have, the iterator comes
    back to the field where it was. -/
theorem find_miss (hE : ValidTable E) {k tag : Nat} {it : PbFieldIter D}
    (hit : Loaded E k it) (hnone : ∀ j, ¬ HasTag E tag j) :
    ((pbBind E).pbFieldIterFind it tag).1 = false
      ∧ Loaded E k ((pbBind E).pbFieldIterFind it tag).2 := by
  have hk := hit.lt
  have hloaded := hit
  obtain ⟨hat, e, he, hholds⟩ := hit
  have hhere : ¬ e.info.tag = tag := fun h => hnone k ⟨e, he, h⟩
  rw [PbMsgdescTable.pbFieldIterFind, hholds.tag, if_neg hhere]
  by_cases hlarge : (pbBind E).largestTag < tag
  · rw [if_pos hlarge]
    exact ⟨rfl, hloaded⟩
  · rw [if_neg hlarge, hat.1]
    have hmiss := fun c it hc => @probeTag_miss D E hE tag c it hc
    split
    · exact searchFields_miss hE _ (HasTag E tag) hk hmiss (Nat.le_refl _)
        ⟨rfl, fun h => absurd h (Nat.lt_irrefl _)⟩ (fun j _ _ => hnone j)
    · exact searchFields_miss hE _ (HasTag E tag) hk hmiss (Nat.le_of_lt hk)
        hat (fun j _ _ => hnone j)

theorem findExtension_miss (hE : ValidTable E) {k : Nat} {it : PbFieldIter D}
    (hit : Loaded E k it) :
    ((pbBind E).pbFieldIterFindExtension it).1 = false
      ∧ Loaded E k ((pbBind E).pbFieldIterFindExtension it).2 := by
  have hk := hit.lt
  obtain ⟨hat, e, he, hholds⟩ := hit
  have hnot : ¬ isExtension it.type = true := by
    rw [hholds.type, hE.noExtension e (List.mem_of_getElem? he)]
    decide
  rw [PbMsgdescTable.pbFieldIterFindExtension, if_neg hnot, hat.1]
  exact searchFields_miss hE _ (fun _ => False) hk
    (fun c it hc _ => probeExtension_miss hE hc) (Nat.le_of_lt hk) hat
    (fun _ _ _ h => h)

/-! ## Runs -/

theorem begin_loaded (hE : ValidTable E) (hne : E ≠ []) :
    (pbBind E).pbFieldIterBegin.1 = true
      ∧ Loaded E 0 (pbBind E).pbFieldIterBegin.2 := by
  obtain ⟨e, he⟩ : ∃ e, E[0]? = some e :=
    ⟨_, List.getElem?_eq_getElem (List.length_pos_iff.mpr hne)⟩
  exact load_at hE (at_zero E rfl rfl rfl rfl) he

/-- One tag after another, with one iterator. -/
def lookups (d : PbMsgdescTable D) :
    PbFieldIter D → List Nat → List (Bool × PbFieldIter D)
  | _, [] => []
  | it, tag :: tags =>
      d.pbFieldIterFind it tag :: lookups d (d.pbFieldIterFind it tag).2 tags

/-- What a search has to say about a tag. -/
def Answer (E : List (Entry D)) (tag : Nat) (p : Bool × PbFieldIter D) : Prop :=
  (p.1 = true ∧ ∃ j, HasTag E tag j ∧ Loaded E j p.2)
    ∨ (p.1 = false ∧ ∀ j, ¬ HasTag E tag j)

theorem find_answer (hE : ValidTable E) {k : Nat} {it : PbFieldIter D}
    (hit : Loaded E k it) (tag : Nat) :
    Answer E tag ((pbBind E).pbFieldIterFind it tag)
      ∧ ∃ j, Loaded E j ((pbBind E).pbFieldIterFind it tag).2 := by
  by_cases h : ∃ j, HasTag E tag j
  · obtain ⟨j, hj⟩ := h
    have hfind := find_hit hE hit hj
    exact ⟨Or.inl ⟨hfind.1, j, hj, hfind.2⟩, j, hfind.2⟩
  · have hnone : ∀ j, ¬ HasTag E tag j := fun j hj => h ⟨j, hj⟩
    have hfind := find_miss hE hit hnone
    exact ⟨Or.inr ⟨hfind.1, hnone⟩, k, hfind.2⟩

/-- **A RUN OF SEARCHES**: whatever tags are looked for with one iterator, and in
    whatever order, each search finds the field of its tag, or that there is
    none. -/
theorem lookups_answered (hE : ValidTable E) (hne : E ≠ []) (tags : List Nat) :
    List.Forall₂ (Answer E) tags
      (lookups (pbBind E) (pbBind E).pbFieldIterBegin.2 tags) := by
  have hrun : ∀ tags k (it : PbFieldIter D), Loaded E k it →
      List.Forall₂ (Answer E) tags (lookups (pbBind E) it tags) := by
    intro tags
    induction tags with
    | nil => exact fun _ _ _ => List.Forall₂.nil
    | cons tag tags ih =>
        intro k it hit
        obtain ⟨hanswer, j, hnext⟩ := find_answer hE hit tag
        exact List.Forall₂.cons hanswer (ih j _ hnext)
  exact hrun tags 0 _ (begin_loaded hE hne).2

/-- Two flags in words of one and of two; the tags have the same six bits. -/
def sampleFields : List (Entry Unit) :=
  [⟨.one, ⟨1, 0x10, 0, 1, 0, 1⟩, none⟩, ⟨.two, ⟨65, 0x10, 1, 1, 0, 1⟩, none⟩]

theorem sampleFields_valid : ValidTable sampleFields :=
  ⟨by decide, by decide, by decide, by decide⟩

theorem lookups_answered_sample :
    List.Forall₂ (Answer sampleFields) [65, 2, 1, 129]
      (lookups (pbBind sampleFields) (pbBind sampleFields).pbFieldIterBegin.2
        [65, 2, 1, 129]) :=
  lookups_answered sampleFields_valid (List.cons_ne_nil _ _) [65, 2, 1, 129]

/-- The iterators that `do … while( pb_field_iter_next( … ) )` goes through, and
    the one that it ends with. -/
def walk (d : PbMsgdescTable D) :
    Nat → PbFieldIter D → List (PbFieldIter D) × PbFieldIter D
  | 0, it => ([], it)
  | fuel + 1, it =>
      let p := d.pbFieldIterNext it
      if p.1 then (it :: (walk d fuel p.2).1, (walk d fuel p.2).2)
      else ([it], p.2)

theorem next_loaded (hE : ValidTable E) {k : Nat} {it : PbFieldIter D}
    (hit : Loaded E k it) :
    ((pbBind E).pbFieldIterNext it).1 = decide (k + 1 < E.length)
      ∧ Loaded E (next E.length k) ((pbBind E).pbFieldIterNext it).2 := by
  have hk := hit.lt
  have hlt : next E.length k < E.length := next_lt (by omega)
  obtain ⟨e, he⟩ : ∃ e, E[next E.length k]? = some e :=
    ⟨_, List.getElem?_eq_getElem hlt⟩
  have hload := (load_at hE (advance_at hE (Nat.le_of_lt hk) hit.1) he).2
  refine ⟨?_, hload⟩
  show (_ != 0) = _
  rw [hload.1.1, next]
  by_cases h : E.length ≤ k + 1
  · rw [if_pos h, decide_eq_false (by omega)]
    rfl
  · rw [if_neg h, decide_eq_true (by omega)]
    rfl

/-- **ALL FIELDS, EACH ONCE** and in their order, and the iterator is at the
    first one again. -/
theorem walk_visits (hE : ValidTable E) (hne : E ≠ []) {fuel : Nat}
    (hfuel : E.length ≤ fuel) :
    (walk (pbBind E) fuel (pbBind E).pbFieldIterBegin.2).1.length = E.length
      ∧ (∀ i it, (walk (pbBind E) fuel
            (pbBind E).pbFieldIterBegin.2).1[i]? = some it → Loaded E i it)
      ∧ Loaded E 0 (walk (pbBind E) fuel (pbBind E).pbFieldIterBegin.2).2 := by
  have hrun : ∀ fuel k (it : PbFieldIter D), Loaded E k it →
      E.length ≤ fuel + k →
      (walk (pbBind E) fuel it).1.length + k = E.length
        ∧ (∀ i it', (walk (pbBind E) fuel it).1[i]? = some it' →
            Loaded E (k + i) it')
        ∧ Loaded E 0 (walk (pbBind E) fuel it).2 := by
    intro fuel
    induction fuel with
    | zero =>
        intro k it hit hfuel
        have hk := hit.lt
        omega
    | succ fuel ih =>
        intro k it hit hfuel
        have hk := hit.lt
        obtain ⟨hmore, hnext⟩ := next_loaded hE hit
        rw [walk]
        by_cases hlast : E.length ≤ k + 1
        · have hstop : ¬ ((pbBind E).pbFieldIterNext it).1 = true := by
            rw [hmore, decide_eq_false (by omega)]
            decide
          rw [next, if_pos hlast] at hnext
          rw [if_neg hstop]
          refine ⟨by show 1 + k = _; omega, fun i it' h => ?_, hnext⟩
          cases i with
          | zero =>
              rw [← Option.some.inj h]
              exact hit
          | succ i =>
              have hnone : (none : Option (PbFieldIter D)) = some it' := h
              cases hnone
        · have hgo : ((pbBind E).pbFieldIterNext it).1 = true := by
            rw [hmore, decide_eq_true (by omega)]
          rw [next, if_neg hlast] at hnext
          obtain ⟨hlength, hvisits, hend⟩ := ih (k + 1) _ hnext (by omega)
          rw [if_pos hgo]
          refine ⟨?_, fun i it' h => ?_, hend⟩
          · show (walk _ fuel _).1.length + 1 + k = _
            omega
          · cases i with
            | zero =>
                rw [← Option.some.inj h]
                exact hit
            | succ i =>
                have h' := hvisits i it' h
                rw [Nat.add_right_comm] at h'
                exact h'
  have h := hrun fuel 0 _ (begin_loaded hE hne).2 hfuel
  refine ⟨h.1, fun i it hi => ?_, h.2.2⟩
  have hi' := h.2.1 i it hi
  rwa [Nat.zero_add] at hi'

theorem walk_visits_sample :
    (walk (pbBind sampleFields) 2
        (pbBind sampleFields).pbFieldIterBegin.2).1.length = 2
      ∧ (∀ i it, (walk (pbBind sampleFields) 2
            (pbBind sampleFields).pbFieldIterBegin.2).1[i]? = some it →
          Loaded sampleFields i it)
      ∧ Loaded sampleFields 0 (walk (pbBind sampleFields) 2
          (pbBind sampleFields).pbFieldIterBegin.2).2 :=
  walk_visits sampleFields_valid (List.cons_ne_nil _ _) (Nat.le_refl 2)

end PbIterator
