import UspZephyr.PbDecoderProofs
import UspZephyr.RacContextProofs

/-! # The RAC messages on the wire

    The thirteen messages of `smtc_rac_context.pb.h`, with the largest encoded
    sizes that the header gives for them, and what a client gets of the result of
    a radio transaction.

    A size of the header is that of values the header declares: constants of the
    enumerations, and payloads that the arrays have room for.  The sizes hold for
    these, and are reached (`declaredSizes`). -/

namespace RacWire

open Varint PbVarint PbStream PbMessage PbDecode PbExchange

/-! ## The messages -/

/-- `rttof_params_pb_t`; `e` is the size of an enumeration. -/
def rttofParamsPb (e : IntSize) : PbMsgdesc :=
  .field 1 (.uint32 .four) <| .field 2 (.uint32 .four)
    <| .field 3 (.uint32 .four) <| .field 4 (.uenum e) .nil

/-- `ranging_result_pb_t`. -/
def rangingResultPb : PbMsgdesc :=
  .field 1 .bool <| .field 2 .float <| .field 3 .float
    <| .field 4 (.int32 .four) .nil

/-- `rac_radio_lora_params_pb_t`. -/
def racRadioLoraParamsPb (e : IntSize) : PbMsgdesc :=
  .field 1 .bool <| .field 2 .bool <| .submsg 3 (rttofParamsPb e)
    <| .field 4 (.uint32 .four) <| .field 5 (.uint32 .four)
    <| .field 6 (.uenum e) <| .field 7 (.uenum e) <| .field 8 (.uenum e)
    <| .field 9 (.uint32 .four) <| .field 10 (.uenum e) <| .field 11 .bool
    <| .field 12 .bool <| .field 13 (.uenum e) <| .field 14 (.uint32 .four)
    <| .field 15 (.uint32 .four) <| .field 16 (.uint32 .four)
    <| .field 17 (.uint32 .four) .nil

/-- `smtc_rac_data_buffer_setup_pb_t`. -/
def smtcRacDataBufferSetupPb : PbMsgdesc := .field 1 (.bytes 255) .nil

/-- `smtc_rac_data_result_pb_t`. -/
def smtcRacDataResultPb : PbMsgdesc :=
  .field 1 (.uint32 .four) <| .field 2 (.int32 .four)
    <| .field 3 (.int32 .four) <| .field 4 (.uint32 .four)
    <| .field 5 (.uint32 .four) <| .submsg 6 rangingResultPb
    <| .field 7 (.bytes 255) .nil

/-- `rac_scheduler_config_pb_t`. -/
def racSchedulerConfigPb (e : IntSize) : PbMsgdesc :=
  .field 1 (.uint32 .four) <| .field 2 (.uenum e)
    <| .field 3 (.uint32 .four) .nil

/-- `smtc_rac_lbt_context_pb_t`. -/
def smtcRacLbtContextPb : PbMsgdesc :=
  .field 1 .bool <| .field 2 (.uint32 .four) <| .field 3 (.int32 .four)
    <| .field 4 (.uint32 .four) <| .field 5 (.int32 .four)
    <| .field 6 .bool .nil

/-- `smtc_rac_cw_context_pb_t`. -/
def smtcRacCwContextPb : PbMsgdesc := .field 1 .bool <| .field 2 .bool .nil

/-- `smtc_rac_cad_context_pb_t`. -/
def smtcRacCadContextPb (e : IntSize) : PbMsgdesc :=
  .field 1 .bool <| .field 2 (.uenum e) <| .field 3 (.uenum e)
    <| .field 4 (.uint32 .four) <| .field 5 (.uenum e) <| .field 6 (.uenum e)
    <| .field 7 (.uint32 .four) <| .field 8 .bool .nil

/-- `smtc_rac_context_pb_t`. -/
def smtcRacContextPb (e : IntSize) : PbMsgdesc :=
  .field 1 (.uenum e) <| .submsg 2 (racRadioLoraParamsPb e)
    <| .submsg 3 smtcRacDataBufferSetupPb <| .submsg 4 (racSchedulerConfigPb e)
    <| .submsg 5 smtcRacDataResultPb <| .submsg 6 smtcRacLbtContextPb
    <| .submsg 7 (smtcRacCadContextPb e) <| .submsg 8 smtcRacCwContextPb .nil

/-- `smtc_rac_lora_request_pb_t`. -/
def smtcRacLoraRequestPb (e : IntSize) : PbMsgdesc :=
  .field 1 (.uint32 .four) <| .submsg 2 (smtcRacContextPb e) .nil

/-- `rac_get_results_request_pb_t`. -/
def racGetResultsRequestPb : PbMsgdesc := .field 1 (.uint32 .four) .nil

/-- `rac_results_pb_t`. -/
def racResultsPb (e : IntSize) : PbMsgdesc :=
  .field 1 (.uenum e) <| .field 2 (.uenum e) <| .submsg 3 smtcRacDataResultPb
    <| .field 4 (.uenum e) <| .field 5 (.uint32 .four) .nil

/-- The messages with the `_size` that the header has for each. -/
def racMessages (e : IntSize) : List (PbMsgdesc × Nat) :=
  [(racGetResultsRequestPb, 6), (racRadioLoraParamsPb e, 84),
    (racResultsPb e, 338), (racSchedulerConfigPb e, 14), (rangingResultPb, 23),
    (rttofParamsPb e, 20), (smtcRacCadContextPb e, 24),
    (smtcRacContextPb e, 763), (smtcRacCwContextPb, 4),
    (smtcRacDataBufferSetupPb, 258), (smtcRacDataResultPb, 323),
    (smtcRacLbtContextPb, 38), (smtcRacLoraRequestPb e, 772)]

theorem racMessages_wellFormed (e : IntSize) :
    ∀ m ∈ racMessages e, m.1.WellFormed := by
  cases e <;> decide

theorem racMessages_sorted (e : IntSize) :
    ∀ m ∈ racMessages e, PbDecoder.Sorted m.1 ∧ PbDecoder.SubmsgsSorted m.1 := by
  cases e <;> decide

/-- They are decoded as their descriptors say, with the tables of any compiler. -/
theorem racMessages_decoded (e : IntSize) {d : PbMsgdesc} {size : Nat}
    (hmem : (d, size) ∈ racMessages e)
    {tables : PbMsgdesc → List (PbIterator.Entry PbMsgdesc)}
    (hcompiled : PbDecoder.Compiled d (tables d))
    (hsubmsgs : PbDecoder.SubmsgsCompiled tables d) (stream : List UInt8)
    (dest : d.Val) :
    PbDecoder.pbDecodeIter tables d stream dest = pbDecode d stream dest := by
  obtain ⟨hsorted, hsubmsgsSorted⟩ := racMessages_sorted e _ hmem
  exact PbDecoder.iterReader_all (hcompiled.validTable hsorted)
    hcompiled.describes
    (PbDecoder.decodeAt_eq hsubmsgs hsubmsgsSorted
      (PbDecoder.nodup_tags hsorted)) stream _

/-! ## Their sizes -/

/-- The bytes that a declared value of a type takes at most: an enumerator is
    below 128. -/
def declaredLimit : PbType → Nat
  | .bool => 1
  | .int32 _ => 10
  | .uint32 .one => 2
  | .uint32 .two => 3
  | .uint32 .four => 5
  | .uint32 .eight => 10
  | .uenum _ => 1
  | .float => 4
  | .bytes max => varintSize max + max

/-- The header's sizes are those of the descriptors. -/
theorem racMessages_sizes (e : IntSize) :
    ∀ m ∈ racMessages e, sizeWith declaredLimit m.1 = m.2 := by
  cases e <;> decide

/-- A value of the type that the header declares. -/
def DeclaredValue : (type : PbType) → type.Val → Prop
  | .uenum _, v => v.toNat < 128
  | .bytes max, v => v.length ≤ max
  | _, _ => True

/-- A structure of declared values. -/
def Declared : (d : PbMsgdesc) → d.Val → Prop
  | .nil, _ => True
  | .field _ type rest, v => DeclaredValue type v.1 ∧ Declared rest v.2
  | .submsg _ d rest, v => Declared d v.1.2 ∧ Declared rest v.2

/-- The types of the fields, those of submessages with them. -/
def types : PbMsgdesc → List PbType
  | .nil => []
  | .field _ type rest => type :: types rest
  | .submsg _ d rest => types d ++ types rest

/-- An array has a byte, and no more than a `size` of 16 bits can count. -/
def Counted : PbType → Prop
  | .bytes max => 0 < max ∧ max ≤ 65535
  | _ => True

instance (type : PbType) : Decidable (Counted type) :=
  match type with
  | .bytes max => inferInstanceAs (Decidable (0 < max ∧ max ≤ 65535))
  | .bool | .int32 _ | .uint32 _ | .uenum _ | .float =>
      inferInstanceAs (Decidable True)

theorem racMessages_counted (e : IntSize) :
    ∀ m ∈ racMessages e, ∀ type ∈ types m.1, Counted type := by
  cases e <;> decide

/-- A declared value has its place in the structure and on the wire. -/
theorem declaredValue_fits {type : PbType} {v : type.Val}
    (h : DeclaredValue type v) (hcounted : Counted type) :
    type.Fits v ∧ (payload type v).length ≤ declaredLimit type := by
  cases type with
  | bool =>
      refine ⟨trivial, length_encode_le (by decide) ?_⟩
      split <;> decide
  | int32 n =>
      refine ⟨trivial, length_encode_le (k := 10) (by decide) ?_⟩
      exact Nat.lt_trans (v.signExtend 64).isLt (by decide)
  | uint32 n =>
      refine ⟨trivial, ?_⟩
      cases n with
      | one => exact length_encode_le (by decide) (Nat.lt_trans v.isLt (by decide))
      | two => exact length_encode_le (by decide) (Nat.lt_trans v.isLt (by decide))
      | four => exact length_encode_le (by decide) (Nat.lt_trans v.isLt (by decide))
      | eight => exact length_encode_le (by decide) (Nat.lt_trans v.isLt (by decide))
  | uenum n => exact ⟨trivial, length_encode_le (k := 1) (by decide) h⟩
  | float =>
      refine ⟨trivial, ?_⟩
      show 4 ≤ 4
      decide
  | bytes max =>
      obtain ⟨-, hmax⟩ := hcounted
      have hlen : v.length ≤ max := h
      have hprefix : (encode v.length).length ≤ varintSize max :=
        length_encode_le_varintSize hlen (by omega)
      refine ⟨⟨?_, ?_⟩, ?_⟩
      · rw [bytesDataSize]
        omega
      · omega
      · show (encode v.length ++ v).length ≤ varintSize max + max
        rw [List.length_append]
        omega

theorem declared_fits (d : PbMsgdesc) {v : d.Val} (h : Declared d v)
    (hcounted : ∀ type ∈ types d, Counted type) :
    d.Fits v ∧ Within declaredLimit d v := by
  induction d with
  | nil => exact ⟨trivial, trivial⟩
  | field tag type rest ih =>
      obtain ⟨hvalue, hlimit⟩ :=
        declaredValue_fits h.1 (hcounted type List.mem_cons_self)
      obtain ⟨hrest, hwithin⟩ :=
        ih h.2 fun t ht => hcounted t (List.mem_cons_of_mem _ ht)
      exact ⟨⟨hvalue, hrest⟩, hlimit, hwithin⟩
  | submsg tag d rest ihd ih =>
      obtain ⟨hsub, hlimit⟩ :=
        ihd h.1 fun t ht => hcounted t (List.mem_append_left _ ht)
      obtain ⟨hrest, hwithin⟩ :=
        ih h.2 fun t ht => hcounted t (List.mem_append_right _ ht)
      exact ⟨⟨hsub, hrest⟩, hlimit, hwithin⟩

/-! ### The largest messages -/

/-- A declared value of a type that takes the most bytes. -/
def maximalValue : (type : PbType) → type.Val
  | .bool => true
  | .int32 n => BitVec.allOnes n.bits
  | .uint32 n => BitVec.allOnes n.bits
  | .uenum n => BitVec.ofNat n.bits 127
  | .float => 1
  | .bytes max => List.replicate max 0

/-- Every field at its largest, and every submessage there. -/
def maximal : (d : PbMsgdesc) → d.Val
  | .nil => ()
  | .field _ type rest => (maximalValue type, maximal rest)
  | .submsg _ d rest => ((true, maximal d), maximal rest)

theorem maximalValue_spec {type : PbType} (hcounted : Counted type) :
    DeclaredValue type (maximalValue type)
      ∧ type.isDefault (maximalValue type) = false
      ∧ (payload type (maximalValue type)).length = declaredLimit type := by
  have hlength : ∀ {k n : Nat}, 128 ^ k ≤ n → n < 128 ^ (k + 1) →
      (encode n).length = k + 1 := fun hlo hhi =>
    Nat.le_antisymm (length_encode_le (Nat.succ_pos _) hhi)
      (lt_length_encode hlo)
  cases type with
  | bool => exact ⟨trivial, rfl, hlength (k := 0) (by decide) (by decide)⟩
  | int32 n =>
      refine ⟨trivial, ?_, ?_⟩
      · cases n <;> rfl
      · have hones : ((BitVec.allOnes n.bits).signExtend 64).toNat
            = 2 ^ 64 - 1 := by
          cases n <;> rfl
        show (encode ((BitVec.allOnes n.bits).signExtend 64).toNat).length = 10
        rw [hones]
        exact hlength (k := 9) (by decide) (by decide)
  | uint32 n =>
      refine ⟨trivial, ?_, ?_⟩
      · cases n <;> rfl
      · cases n with
        | one => exact hlength (k := 1) (by decide) (by decide)
        | two => exact hlength (k := 2) (by decide) (by decide)
        | four => exact hlength (k := 4) (by decide) (by decide)
        | eight => exact hlength (k := 9) (by decide) (by decide)
  | uenum n =>
      have hvalue : (maximalValue (.uenum n)).toNat = 127 := by
        cases n <;> rfl
      refine ⟨?_, ?_, ?_⟩
      · show (maximalValue (.uenum n)).toNat < 128
        rw [hvalue]
        decide
      · cases n <;> rfl
      · show (encode (maximalValue (.uenum n)).toNat).length = 1
        rw [hvalue]
        exact hlength (k := 0) (by decide) (by decide)
  | float => exact ⟨trivial, rfl, rfl⟩
  | bytes max =>
      obtain ⟨hpos, hmax⟩ := hcounted
      have hlen : (maximalValue (.bytes max)).length = max :=
        List.length_replicate
      refine ⟨Nat.le_of_eq hlen, ?_, ?_⟩
      · show ((maximalValue (.bytes max)).length == 0) = false
        rw [hlen]
        exact beq_false_of_ne (Nat.ne_of_gt hpos)
      · show (encode (maximalValue (.bytes max)).length
          ++ maximalValue (.bytes max)).length = varintSize max + max
        rw [List.length_append, hlen, length_encode_eq_varintSize (by omega)]

theorem declared_maximal (d : PbMsgdesc)
    (hcounted : ∀ type ∈ types d, Counted type) : Declared d (maximal d) := by
  induction d with
  | nil => trivial
  | field tag type rest ih =>
      exact ⟨(maximalValue_spec (hcounted type List.mem_cons_self)).1,
        ih fun t ht => hcounted t (List.mem_cons_of_mem _ ht)⟩
  | submsg tag d rest ihd ih =>
      exact ⟨ihd fun t ht => hcounted t (List.mem_append_left _ ht),
        ih fun t ht => hcounted t (List.mem_append_right _ ht)⟩

theorem length_wire_maximal (d : PbMsgdesc) (hd : d.WellFormed)
    (hcounted : ∀ type ∈ types d, Counted type)
    (hsize : sizeWith declaredLimit d < 2 ^ 32) :
    (wire d (maximal d)).length = sizeWith declaredLimit d := by
  induction d with
  | nil => rfl
  | field tag type rest ih =>
      obtain ⟨-, htag, -, hrest⟩ := hd
      have hsplit : sizeWith declaredLimit (.field tag type rest)
          = varintSize (key tag type.wireType) + declaredLimit type
            + sizeWith declaredLimit rest := rfl
      rw [hsplit] at hsize ⊢
      have htail := ih hrest
        (fun t ht => hcounted t (List.mem_cons_of_mem _ ht)) (by omega)
      obtain ⟨-, hdefault, hvalue⟩ :=
        maximalValue_spec (hcounted type List.mem_cons_self)
      have hkey := length_encode_eq_varintSize
        (Nat.lt_trans (key_lt htag type.wireType) (by decide))
      show (fieldWire type tag (maximalValue type)
        ++ wire rest (maximal rest)).length = _
      rw [fieldWire, hdefault, if_neg (by decide), List.length_append,
        List.length_append, hkey, hvalue, htail]
  | submsg tag d rest ihd ih =>
      obtain ⟨-, htag, -, hd, hrest⟩ := hd
      have hsplit : sizeWith declaredLimit (.submsg tag d rest)
          = varintSize (key tag wtString) + varintSize (sizeWith declaredLimit d)
            + sizeWith declaredLimit d + sizeWith declaredLimit rest := rfl
      rw [hsplit] at hsize ⊢
      have htail := ih hrest
        (fun t ht => hcounted t (List.mem_append_right _ ht)) (by omega)
      have hsub := ihd hd
        (fun t ht => hcounted t (List.mem_append_left _ ht)) (by omega)
      have hkey := length_encode_eq_varintSize
        (Nat.lt_trans (key_lt htag wtString) (by decide))
      have hprefix := length_encode_eq_varintSize
        (n := sizeWith declaredLimit d) (by omega)
      show (submsgWire tag (wire d (maximal d))
        ++ wire rest (maximal rest)).length = _
      rw [List.length_append, submsgWire, List.length_append,
        List.length_append, hkey, hsub, hprefix, htail]
      omega

/-- Declared values go through a buffer of the declared size, and arrive cleared. -/
theorem declared_sent {e : IntSize} {m : PbMsgdesc × Nat}
    (hm : m ∈ racMessages e) {v : m.1.Val} (hv : Declared m.1 v) :
    ∃ s, pbEncode m.1 (pbOstreamFromBuffer m.2) v = .ok s
      ∧ s.state.length ≤ m.2
      ∧ ∀ dest, pbDecode m.1 s.state dest = .ok (clear m.1 v) := by
  have hd := racMessages_wellFormed e m hm
  have hsize := racMessages_sizes e m hm
  have hbound : ∀ m ∈ racMessages e, m.2 < 2 ^ 32 := by
    cases e <;> decide
  have hsmall := hbound m hm
  obtain ⟨hfits, hwithin⟩ := declared_fits m.1 hv (racMessages_counted e m hm)
  have hle := length_wire_le m.1 hd (by omega) hwithin
  refine ⟨{ callback := true, state := wire m.1 v, maxSize := m.2
            bytesWritten := (wire m.1 v).length }, ?_, ?_, fun dest => ?_⟩
  · rw [pbEncode_buffer m.1 hd hfits (by omega), if_pos (by omega)]
  · show (wire m.1 v).length ≤ m.2
    omega
  · exact pbDecode_wire m.1 hd hfits (by omega) dest

/-- **THE SIZES OF THE HEADER** hold for every structure of declared values,
    whose messages therefore fit a buffer of that size, and no size is larger
    than need be. -/
theorem declaredSizes (e : IntSize) {m : PbMsgdesc × Nat}
    (hm : m ∈ racMessages e) :
    (∀ v : m.1.Val, Declared m.1 v →
      pbEncode m.1 (pbOstreamFromBuffer m.2) v
        = .ok { callback := true, state := wire m.1 v, maxSize := m.2
                bytesWritten := (wire m.1 v).length })
    ∧ ∃ v : m.1.Val, Declared m.1 v ∧ (wire m.1 v).length = m.2 := by
  have hd := racMessages_wellFormed e m hm
  have hsizes := racMessages_sizes e m hm
  have hcounted := racMessages_counted e m hm
  have hbound : ∀ m ∈ racMessages e, m.2 < 2 ^ 32 := by
    cases e <;> decide
  have hsmall := hbound m hm
  constructor
  · intro v hv
    obtain ⟨hfits, hwithin⟩ := declared_fits m.1 hv hcounted
    have hle := length_wire_le m.1 hd (by omega) hwithin
    rw [pbEncode_buffer m.1 hd hfits (by omega), if_pos (by omega)]
  · refine ⟨maximal m.1, declared_maximal m.1 hcounted, ?_⟩
    rw [length_wire_maximal m.1 hd hcounted (by omega), hsizes]

theorem declaredSizes_request :
    (∀ v : racGetResultsRequestPb.Val, Declared racGetResultsRequestPb v →
      pbEncode racGetResultsRequestPb (pbOstreamFromBuffer 6) v
        = .ok { callback := true, state := wire racGetResultsRequestPb v
                maxSize := 6
                bytesWritten := (wire racGetResultsRequestPb v).length })
    ∧ ∃ v : racGetResultsRequestPb.Val, Declared racGetResultsRequestPb v
      ∧ (wire racGetResultsRequestPb v).length = 6 :=
  @declaredSizes .four (racGetResultsRequestPb, 6) (by decide)

/-! ## The result of a transaction -/

open RacConverter RacContext

/-- `ranging_result_pb_t`, the floats by their bits. -/
structure RangingResultFields where
  valid : Bool
  distanceM : BitVec 32
  rssi : BitVec 32
  timestamp : BitVec 32

/-- `smtc_rac_data_result_pb_t`, all of it. -/
structure DataResultFields where
  rxSize : BitVec 32
  rssiResult : BitVec 32
  snrResult : BitVec 32
  radioEndTimestampMs : BitVec 32
  radioStartTimestampMs : BitVec 32
  hasRangingResult : Bool
  rangingResult : RangingResultFields
  rxPayloadBuffer : List UInt8

/-- `rac_results_pb_t`. -/
structure ResultsFields (e : IntSize) where
  transactionStatus : BitVec e.bits
  returnCode : BitVec e.bits
  hasResults : Bool
  results : DataResultFields
  rpStatus : BitVec e.bits
  radioAccessId : BitVec 32

def RangingResultFields.val (r : RangingResultFields) : rangingResultPb.Val :=
  (r.valid, r.distanceM, r.rssi, r.timestamp, ())

def DataResultFields.val (r : DataResultFields) : smtcRacDataResultPb.Val :=
  (r.rxSize, r.rssiResult, r.snrResult, r.radioEndTimestampMs,
    r.radioStartTimestampMs, (r.hasRangingResult, r.rangingResult.val),
    r.rxPayloadBuffer, ())

def ResultsFields.val {e : IntSize} (r : ResultsFields e) :
    (racResultsPb e).Val :=
  (r.transactionStatus, r.returnCode, (r.hasResults, r.results.val),
    r.rpStatus, r.radioAccessId, ())

/-- The fields of a structure. -/
def dataResultFields : smtcRacDataResultPb.Val → DataResultFields
  | (rxSize, rssiResult, snrResult, radioEndTimestampMs, radioStartTimestampMs,
      (hasRangingResult, valid, distanceM, rssi, timestamp, _),
      rxPayloadBuffer, _) =>
      { rxSize, rssiResult, snrResult, radioEndTimestampMs
        radioStartTimestampMs, hasRangingResult
        rangingResult := { valid, distanceM, rssi, timestamp }
        rxPayloadBuffer }

def resultsFields {e : IntSize} : (racResultsPb e).Val → ResultsFields e
  | (transactionStatus, returnCode, (hasResults, results), rpStatus,
      radioAccessId, _) =>
      { transactionStatus, returnCode, hasResults
        results := dataResultFields results, rpStatus, radioAccessId }

/-- What `rac_convert_data_result_from_pb` reads. -/
def DataResultFields.read (r : DataResultFields) :
    SmtcRacDataResultPb (BitVec 32) where
  rxSize := r.rxSize
  rssiResult := r.rssiResult
  snrResult := r.snrResult
  radioEndTimestampMs := r.radioEndTimestampMs
  radioStartTimestampMs := r.radioStartTimestampMs
  rangingResult :=
    { valid := r.rangingResult.valid
      distanceM := r.rangingResult.distanceM
      rssi := r.rangingResult.rssi }

variable {w : NativeTypes} {e : IntSize}

/-- The conversions to 32 bits: whether a native field is of a signed type, and
    the casts to `float`. -/
structure Widening where
  signed : NativeField → Bool
  ofInt32 : BitVec 32 → BitVec 32
  ofInt8 : BitVec 8 → BitVec 32

/-- An assignment of a native field to one of 32 bits. -/
def Widening.widen (c : Widening) (f : NativeField) {n : Nat} (x : BitVec n) :
    BitVec 32 :=
  if c.signed f then x.signExtend 32 else x.setWidth 32

/-- `rac_convert_data_result_to_pb`; neither pointer is null. -/
def racConvertDataResultToPb (c : Widening) (native : SmtcRacDataResult w)
    (pb : DataResultFields) : DataResultFields :=
  { pb with
    rxSize := c.widen .rxSize native.rxSize
    rssiResult := c.widen .rssiResult native.rssiResult
    snrResult := c.widen .snrResult native.snrResult
    radioEndTimestampMs :=
      c.widen .radioEndTimestampMs native.radioEndTimestampMs
    radioStartTimestampMs :=
      c.widen .radioStartTimestampMs native.radioStartTimestampMs
    rangingResult :=
      { valid := true
        distanceM := c.ofInt32 native.rangingResult.distanceM
        rssi := c.ofInt8 native.rangingResult.rssi
        timestamp := 0 }
    rxPayloadBuffer := [] }

/-- `rac_copy_rx_payload_to_result`; `none` for a null `rx_payload_buffer`. -/
def racCopyRxPayloadToResult (rxPayloadBuffer : Option (Nat → UInt8))
    (rxSize : BitVec 32) (pb : DataResultFields) : Bool × DataResultFields :=
  if rxSize.toNat > 0 then
    if rxSize.toNat > 255 then (false, pb)
    else
      match rxPayloadBuffer with
      | none => (false, pb)
      | some buffer =>
          (true,
            { pb with
              rxPayloadBuffer := (List.range rxSize.toNat).map buffer })
  else (true, { pb with rxPayloadBuffer := [] })

/-- What is widened comes back. -/
theorem setWidth_widen (c : Widening) (f : NativeField)
    (x : BitVec (w.width f)) : (c.widen f x).setWidth (w.width f) = x := by
  have hle := w.width_le f
  rw [Widening.widen]
  split
  · exact setWidth_signExtend hle x
  · apply BitVec.eq_of_toNat_eq
    have hpow : 2 ^ w.width f ≤ 2 ^ 32 := Nat.pow_le_pow_right (by decide) hle
    rw [BitVec.toNat_setWidth, BitVec.toNat_setWidth,
      Nat.mod_eq_of_lt (Nat.lt_of_lt_of_le x.isLt hpow),
      Nat.mod_eq_of_lt x.isLt]

/-- A payload is copied if there is a buffer of no more than 255 bytes for it. -/
theorem copyRxPayload_accepts_iff (buffer : Option (Nat → UInt8))
    (rxSize : BitVec 32) (pb : DataResultFields) :
    (racCopyRxPayloadToResult buffer rxSize pb).1 = true
      ↔ (rxSize.toNat > 0 → rxSize.toNat ≤ 255 ∧ buffer.isSome = true) := by
  unfold racCopyRxPayloadToResult
  by_cases hpos : rxSize.toNat > 0
  · by_cases hbig : rxSize.toNat > 255
    · have hnot : ¬ rxSize.toNat ≤ 255 := by omega
      simp [hpos, hbig, hnot]
    · have hle : rxSize.toNat ≤ 255 := by omega
      cases buffer with
      | none => simp [hpos, hbig]
      | some b => simp [hpos, hbig, hle]
  · simp [hpos]

/-- The first `n` bytes of the buffer. -/
def received (buffer : Option (Nat → UInt8)) (n : Nat) : List UInt8 :=
  match buffer with
  | none => []
  | some b => (List.range n).map b

theorem length_received_le (buffer : Option (Nat → UInt8)) (n : Nat) :
    (received buffer n).length ≤ n := by
  cases buffer with
  | none => exact Nat.zero_le n
  | some b =>
      have hlen : ((List.range n).map b).length = n := by
        rw [List.length_map, List.length_range]
      exact Nat.le_of_eq hlen

theorem copyRxPayload_eq {buffer : Option (Nat → UInt8)} {rxSize : BitVec 32}
    {pb : DataResultFields}
    (h : (racCopyRxPayloadToResult buffer rxSize pb).1 = true) :
    (racCopyRxPayloadToResult buffer rxSize pb).2
        = { pb with rxPayloadBuffer := received buffer rxSize.toNat }
      ∧ (received buffer rxSize.toNat).length ≤ 255 := by
  have haccepts := (copyRxPayload_accepts_iff buffer rxSize pb).mp h
  by_cases hpos : rxSize.toNat > 0
  · obtain ⟨hle, hsome⟩ := haccepts hpos
    have hlen := length_received_le buffer rxSize.toNat
    refine ⟨?_, by omega⟩
    obtain ⟨b, rfl⟩ := Option.isSome_iff_exists.mp hsome
    show (if rxSize.toNat > 0 then (if rxSize.toNat > 255 then (false, pb)
      else _) else _).2 = _
    rw [if_pos hpos, if_neg (Nat.not_lt.mpr hle)]
    rfl
  · have hzero : rxSize.toNat = 0 := by omega
    have hnil : received buffer rxSize.toNat = [] :=
      List.eq_nil_of_length_eq_zero (Nat.le_zero.mp
        (hzero ▸ length_received_le buffer rxSize.toNat))
    rw [hnil]
    refine ⟨?_, by decide⟩
    show (if rxSize.toNat > 0 then _ else (true, _)).2 = _
    rw [if_neg hpos]

/-- A result there and back, with whatever ranging result arrives. -/
theorem dataResult_back (c : Widening) (casts : FloatCasts (BitVec 32))
    (native client : SmtcRacDataResult w) (pb : DataResultFields)
    (r : RangingResultFields) (payload : List UInt8) :
    racConvertDataResultFromPb casts
        ({ racConvertDataResultToPb c native pb with
          rangingResult := r, rxPayloadBuffer := payload
          } : DataResultFields).read client
      = { native with
          rangingResult :=
            if r.valid then
              { rawDistance := 0, distanceM := casts.toInt32 r.distanceM
                rssi := casts.toInt8 r.rssi }
            else client.rangingResult } := by
  have h := fun (f : NativeField) (x : BitVec (w.width f)) => setWidth_widen c f x
  show SmtcRacDataResult.mk ((c.widen _ _).setWidth _)
    ((c.widen _ _).setWidth _) ((c.widen _ _).setWidth _)
    ((c.widen _ _).setWidth _) ((c.widen _ _).setWidth _) _ = _
  rw [h, h, h, h, h]
  rfl

/-- What a client has of a transaction: the payload, and the native result but
    for the ranging result, of which it keeps its own. -/
structure Delivered (casts : FloatCasts (BitVec 32)) (sent got : ResultsFields e)
    (payload : List UInt8) (native client : SmtcRacDataResult w) : Prop where
  transactionStatus : got.transactionStatus = sent.transactionStatus
  returnCode : got.returnCode = sent.returnCode
  rpStatus : got.rpStatus = sent.rpStatus
  radioAccessId : got.radioAccessId = sent.radioAccessId
  rxPayload : got.results.rxPayloadBuffer = payload
  rangingResult : got.results.hasRangingResult = false
  result : racConvertDataResultFromPb casts got.results.read client
    = { native with rangingResult := client.rangingResult }

/-- **THE RESULT ARRIVES, BUT FOR THE RANGING**: a result that the converters accept
    fits the buffer of its declared size, and is what the other side makes of the
    bytes.  The converter fills in the ranging result and leaves its flag as it
    was, so that of an initialised structure it is not sent. -/
theorem result_delivered (c : Widening) (casts : FloatCasts (BitVec 32))
    (native client : SmtcRacDataResult w) (buffer : Option (Nat → UInt8))
    (rxSize : BitVec 32) (pb : DataResultFields) (sent : ResultsFields e)
    (dest : (racResultsPb e).Val)
    (hinit : pb.hasRangingResult = false)
    (hcopied : (racCopyRxPayloadToResult buffer rxSize
      (racConvertDataResultToPb c native pb)).1 = true)
    (hresults : sent.results = (racCopyRxPayloadToResult buffer rxSize
      (racConvertDataResultToPb c native pb)).2)
    (hhas : sent.hasResults = true)
    (hstatus : sent.transactionStatus.toNat < 128)
    (hcode : sent.returnCode.toNat < 128) (hrp : sent.rpStatus.toNat < 128) :
    ∃ s v, pbEncode (racResultsPb e) (pbOstreamFromBuffer 338) sent.val = .ok s
      ∧ s.state.length ≤ 338
      ∧ pbDecode (racResultsPb e) s.state dest = .ok v
      ∧ Delivered casts sent (resultsFields v)
          (received buffer rxSize.toNat) native client := by
  obtain ⟨hcopy, hlen⟩ := copyRxPayload_eq hcopied
  rw [hcopy] at hresults
  have hm : (racResultsPb e, 338) ∈ racMessages e := by
    rw [racMessages]
    exact List.mem_cons_of_mem _ (List.mem_cons_of_mem _ List.mem_cons_self)
  have hdeclared : Declared (racResultsPb e) sent.val := by
    rw [ResultsFields.val, hresults]
    exact ⟨hstatus, hcode,
      ⟨trivial, trivial, trivial, trivial, trivial,
        ⟨trivial, trivial, trivial, trivial, trivial⟩, hlen, trivial⟩,
      hrp, trivial, trivial⟩
  obtain ⟨s, hencode, hle, hdecode⟩ := declared_sent hm hdeclared
  refine ⟨s, clear (racResultsPb e) sent.val, hencode, hle, hdecode dest, ?_⟩
  -- the fields are those sent, with zeros for the ranging result
  have hcleared : resultsFields (clear (racResultsPb e) sent.val)
      = { sent with
          results :=
            { racConvertDataResultToPb c native pb with
              hasRangingResult := false
              rangingResult := ⟨false, 0, 0, 0⟩
              rxPayloadBuffer := received buffer rxSize.toNat } } := by
    obtain ⟨status, code, has, results, rp, id⟩ := sent
    obtain ⟨a1, a2, a3, a4, a5, hasRanging, ranging, payload⟩ := pb
    subst hhas hresults hinit
    rfl
  rw [hcleared]
  exact {
    transactionStatus := rfl
    returnCode := rfl
    rpStatus := rfl
    radioAccessId := rfl
    rxPayload := rfl
    rangingResult := rfl
    result := dataResult_back c casts native client
      { pb with hasRangingResult := false } _ _ }

/-- The casts of one metre and of -1 dBm. -/
def sampleWidening : Widening where
  signed := fun f => decide (f = .rssiResult ∨ f = .snrResult)
  ofInt32 := fun x => if x = 1 then 0x3F800000 else 0
  ofInt8 := fun x => if x = -1 then 0xBF800000 else 0

def sampleCasts : FloatCasts (BitVec 32) where
  toInt32 := fun x => if x = 0x3F800000 then 1 else 0
  toInt8 := fun x => if x = 0xBF800000 then -1 else 0

/-- A packet of eight bytes. -/
def sampleResult : SmtcRacDataResult wideNative where
  rxSize := 8
  rssiResult := -80
  snrResult := -7
  radioEndTimestampMs := 1200
  radioStartTimestampMs := 1000
  rangingResult := { rawDistance := 77, distanceM := 1, rssi := -1 }

/-- A client with a ranging result of its own. -/
def sampleClientResult : SmtcRacDataResult wideNative where
  rxSize := 0
  rssiResult := 0
  snrResult := 0
  radioEndTimestampMs := 0
  radioStartTimestampMs := 0
  rangingResult := { rawDistance := 5, distanceM := 3, rssi := -90 }

def emptyFields : DataResultFields where
  rxSize := 0
  rssiResult := 0
  snrResult := 0
  radioEndTimestampMs := 0
  radioStartTimestampMs := 0
  hasRangingResult := false
  rangingResult := ⟨false, 0, 0, 0⟩
  rxPayloadBuffer := []

def sampleSent : ResultsFields .four where
  transactionStatus := 1
  returnCode := 0
  hasResults := true
  results := (racCopyRxPayloadToResult (some fun i => UInt8.ofNat i) 8
    (racConvertDataResultToPb sampleWidening sampleResult emptyFields)).2
  rpStatus := 4
  radioAccessId := 3

theorem result_delivered_sample :
    ∃ s v, pbEncode (racResultsPb .four) (pbOstreamFromBuffer 338)
        sampleSent.val = .ok s
      ∧ s.state.length ≤ 338
      ∧ pbDecode (racResultsPb .four) s.state (racResultsPb .four).zero = .ok v
      ∧ Delivered sampleCasts sampleSent (resultsFields v)
          (received (some fun i => UInt8.ofNat i) 8) sampleResult
          sampleClientResult :=
  result_delivered sampleWidening sampleCasts sampleResult sampleClientResult
    (some fun i => UInt8.ofNat i) 8 emptyFields sampleSent _ rfl (by decide) rfl
    rfl (by decide) (by decide) (by decide)

end RacWire
