import UspZephyr.RacWireProofs

/-! # A radio request on the wire

    What a client asks for goes through three layers: `rac_context_converter.c`
    turns the parameters into protobuf structures, nanopb into bytes and back, and
    the converter turns the structures that the modem has decoded into its native
    context.  `request_delivered` is about all three. -/

namespace RacRequest

open ByteMemory FieldCodec RacEnum RacConverter RacContext RacWire
open Varint PbVarint PbStream PbMessage PbDecode PbExchange

/-! ## The values of the enumerations -/

/-- The constants of an enumeration of the generated header, the first with the
    value 0 and each of the others with one more. -/
class Enumerators (α : Type) [DecidableEq α] extends Constants α where
  length_le : constants.length ≤ 128

instance : Enumerators LoraSpreadingFactorPb where
  constants := [.sf5, .sf6, .sf7, .sf8, .sf9, .sf10, .sf11, .sf12]
  mem_constants c := by cases c <;> decide
  length_le := by decide

instance : Enumerators LoraBandwidthPb where
  constants :=
    [.bw007Khz, .bw010Khz, .bw015Khz, .bw020Khz, .bw031Khz, .bw041Khz, .bw062Khz,
      .bw125Khz, .bw200Khz, .bw250Khz, .bw400Khz, .bw500Khz, .bw800Khz, .bw1000Khz,
      .bw1600Khz]
  mem_constants c := by cases c <;> decide
  length_le := by decide

instance : Enumerators LoraCodingRatePb where
  constants := [.cr45, .cr46, .cr47, .cr48, .crLi45, .crLi46, .crLi48]
  mem_constants c := by cases c <;> decide
  length_le := by decide

instance : Enumerators LoraPacketLengthModePb where
  constants := [.explicitHeader, .implicitHeader]
  mem_constants c := by cases c <;> decide
  length_le := by decide

instance : Enumerators LoraSyncwordPb where
  constants := [.privateNetwork, .publicNetwork]
  mem_constants c := by cases c <;> decide
  length_le := by decide

instance : Enumerators SmtcRacSchedulingPb where
  constants := [.scheduledTransaction, .asapTransaction]
  mem_constants c := by cases c <;> decide
  length_le := by decide

instance : Enumerators SmtcRacModulationTypePb where
  constants := [.lora, .fsk, .lrfhss, .flrc]
  mem_constants c := by cases c <;> decide
  length_le := by decide

instance : Enumerators RalLoraCadSymbsPb where
  constants := [.cad01Symb, .cad02Symb, .cad04Symb, .cad08Symb, .cad16Symb]
  mem_constants c := by cases c <;> decide
  length_le := by decide

instance : Enumerators RalLoraCadExitModesPb where
  constants := [.cadOnly, .cadRx, .cadLbt]
  mem_constants c := by cases c <;> decide
  length_le := by decide

section Words

variable {α β : Type} [DecidableEq β] [Enumerators β] {e : IntSize}

/-- The integer in a field of an enumeration type. -/
def word (e : IntSize) : CEnum β → BitVec e.bits
  | .const c => BitVec.ofNat e.bits ((Constants.constants (α := β)).idxOf c)
  | .other v => BitVec.ofInt e.bits v

/-- The value of an enumeration type that an integer is. -/
def ofWord (x : BitVec e.bits) : CEnum β :=
  match (Constants.constants (α := β))[x.toNat]? with
  | some c => .const c
  | none => .other x.toNat

theorem bits_pos (e : IntSize) : 2 ^ 8 ≤ 2 ^ e.bits := by
  cases e <;> decide

theorem toNat_word (e : IntSize) (c : β) :
    (word e (.const c)).toNat = (Constants.constants (α := β)).idxOf c
      ∧ (Constants.constants (α := β)).idxOf c < 128 := by
  have hlt := List.idxOf_lt_length_of_mem (Constants.mem_constants c)
  have hlen := Enumerators.length_le (α := β)
  have hbits := bits_pos e
  refine ⟨?_, by omega⟩
  rw [word, BitVec.toNat_ofNat]
  exact Nat.mod_eq_of_lt (by omega)

/-- A constant comes back. -/
theorem ofWord_word {x : CEnum β} (hx : x.IsConst) : ofWord (word e x) = x := by
  obtain ⟨c, rfl⟩ := hx
  rw [ofWord, (toNat_word e c).1,
    List.getElem?_idxOf (Constants.mem_constants c)]

/-- And is one that the header declares. -/
theorem word_lt {x : CEnum β} (hx : x.IsConst) : (word e x).toNat < 128 := by
  obtain ⟨c, rfl⟩ := hx
  rw [(toNat_word e c).1]
  exact (toNat_word e c).2

omit [DecidableEq β] [Enumerators β] in
theorem isConst_switch (table : α → β) (default : β) (x : CEnum α) :
    (CEnum.switch table default x).IsConst := by
  cases x with
  | const c => exact ⟨_, rfl⟩
  | other v => exact ⟨_, rfl⟩

end Words

/-! ## The structures of the header -/

variable {w : NativeTypes} {Callback : Type} {e : IntSize}

/-- The members of each structure as the descriptors have them, and back. -/
def rttofVal (e : IntSize) (r : RttofParamsPb) : (rttofParamsPb e).Val :=
  (r.requestAddress, r.delayIndicator, r.responseSymbolsCount,
    word e r.bwRanging, ())

def rttofOf : (rttofParamsPb e).Val → RttofParamsPb
  | (requestAddress, delayIndicator, responseSymbolsCount, bwRanging, _) =>
      { requestAddress, delayIndicator, responseSymbolsCount
        bwRanging := ofWord bwRanging }

def radioParamsVal (e : IntSize) (r : RacRadioLoraParamsPb) :
    (racRadioLoraParamsPb e).Val :=
  (r.isTx, r.isRangingExchange, (r.hasRttof, rttofVal e r.rttof),
    r.frequencyInHz, r.txPowerInDbm, word e r.sf, word e r.bw, word e r.cr,
    r.preambleLenInSymb, word e r.headerType, r.invertIqIsOn, r.crcIsOn,
    word e r.syncWord, r.rxTimeoutMs, r.symbNbTimeout, r.maxRxSize, r.txSize, ())

def radioParamsOf : (racRadioLoraParamsPb e).Val → RacRadioLoraParamsPb
  | (isTx, isRangingExchange, (hasRttof, rttof), frequencyInHz, txPowerInDbm, sf,
      bw, cr, preambleLenInSymb, headerType, invertIqIsOn, crcIsOn, syncWord,
      rxTimeoutMs, symbNbTimeout, maxRxSize, txSize, _) =>
      { isTx, isRangingExchange, hasRttof, rttof := rttofOf rttof, frequencyInHz
        txPowerInDbm, sf := ofWord sf, bw := ofWord bw, cr := ofWord cr
        preambleLenInSymb, headerType := ofWord headerType, invertIqIsOn, crcIsOn
        syncWord := ofWord syncWord, rxTimeoutMs, symbNbTimeout, maxRxSize
        txSize }

def schedulerConfigVal (e : IntSize) (r : RacSchedulerConfigPb) :
    (racSchedulerConfigPb e).Val :=
  (r.startTimeMs, word e r.scheduling, r.durationTimeMs, ())

def schedulerConfigOf : (racSchedulerConfigPb e).Val → RacSchedulerConfigPb
  | (startTimeMs, scheduling, durationTimeMs, _) =>
      { startTimeMs, scheduling := ofWord scheduling, durationTimeMs }

def lbtContextVal (r : SmtcRacLbtContextPb) : smtcRacLbtContextPb.Val :=
  (r.lbtEnabled, r.listenDurationMs, r.thresholdDbm, r.bandwidthHz,
    r.rssiInstDbm, r.channelBusy, ())

def lbtContextOf : smtcRacLbtContextPb.Val → SmtcRacLbtContextPb
  | (lbtEnabled, listenDurationMs, thresholdDbm, bandwidthHz, rssiInstDbm,
      channelBusy, _) =>
      { lbtEnabled, listenDurationMs, thresholdDbm, bandwidthHz, rssiInstDbm
        channelBusy }

def cadContextVal (e : IntSize) (r : SmtcRacCadContextPb) :
    (smtcRacCadContextPb e).Val :=
  (r.cadEnabled, word e r.cadSymbNb, word e r.cadExitMode, r.cadTimeoutInMs,
    word e r.sf, word e r.bw, r.rfFreqInHz, r.invertIqIsOn, ())

def cadContextOf : (smtcRacCadContextPb e).Val → SmtcRacCadContextPb
  | (cadEnabled, cadSymbNb, cadExitMode, cadTimeoutInMs, sf, bw, rfFreqInHz,
      invertIqIsOn, _) =>
      { cadEnabled, cadSymbNb := ofWord cadSymbNb
        cadExitMode := ofWord cadExitMode, cadTimeoutInMs, sf := ofWord sf
        bw := ofWord bw, rfFreqInHz, invertIqIsOn }

def cwContextVal (r : SmtcRacCwContextPb) : smtcRacCwContextPb.Val :=
  (r.cwEnabled, r.infinitePreamble, ())

def cwContextOf : smtcRacCwContextPb.Val → SmtcRacCwContextPb
  | (cwEnabled, infinitePreamble, _) => { cwEnabled, infinitePreamble }

/-- `tx_payload_buffer`, whose `size` is the length. -/
def txPayloadOf : smtcRacDataBufferSetupPb.Val → TxPayloadPb
  | (bytes, _) => { size := bytes.length, bytes := fun i => bytes.getD i 0 }

/-! ## They come back -/

theorem rttof_back {r : RttofParamsPb} (h : r.bwRanging.IsConst) :
    rttofOf (rttofVal e r) = r := by
  show RttofParamsPb.mk _ _ _ (ofWord (word e _)) = _
  rw [ofWord_word h]

/-- The members of an enumeration type hold constants. -/
structure RadioConsts (r : RacRadioLoraParamsPb) : Prop where
  rttof : r.rttof.bwRanging.IsConst
  sf : r.sf.IsConst
  bw : r.bw.IsConst
  cr : r.cr.IsConst
  headerType : r.headerType.IsConst
  syncWord : r.syncWord.IsConst

theorem radioConsts (native : SmtcRacRadioLoraParams w) :
    RadioConsts (racConvertRadioParamsToPb native) where
  rttof := isConst_switch _ _ _
  sf := isConst_switch _ _ _
  bw := isConst_switch _ _ _
  cr := isConst_switch _ _ _
  headerType := isConst_switch _ _ _
  syncWord := isConst_switch _ _ _

theorem radioParams_back {r : RacRadioLoraParamsPb} (h : RadioConsts r) :
    radioParamsOf (radioParamsVal e r) = r := by
  show RacRadioLoraParamsPb.mk _ _ _ (rttofOf (rttofVal e _)) _ _
    (ofWord (word e _)) (ofWord (word e _)) (ofWord (word e _)) _
    (ofWord (word e _)) _ _ (ofWord (word e _)) _ _ _ _ = _
  rw [rttof_back h.rttof, ofWord_word h.sf, ofWord_word h.bw, ofWord_word h.cr,
    ofWord_word h.headerType, ofWord_word h.syncWord]

theorem schedulerConfig_back {r : RacSchedulerConfigPb}
    (h : r.scheduling.IsConst) :
    schedulerConfigOf (schedulerConfigVal e r) = r := by
  show RacSchedulerConfigPb.mk _ (ofWord (word e _)) _ = _
  rw [ofWord_word h]

structure CadConsts (r : SmtcRacCadContextPb) : Prop where
  cadSymbNb : r.cadSymbNb.IsConst
  cadExitMode : r.cadExitMode.IsConst
  sf : r.sf.IsConst
  bw : r.bw.IsConst

/-- A CAD context that the converter accepts. -/
theorem cadConsts {native : SmtcRacCadRadioParams w} (h : native.Named)
    (pb : SmtcRacCadContextPb) :
    CadConsts (racConvertCadContextToPb native pb).2 := by
  obtain ⟨m, hm⟩ := h.cadExitMode
  obtain ⟨n, hn⟩ := h.cadSymbNb
  rw [racConvertCadContextToPb, ← hm, ← hn, NativeEnum.read_value,
    NativeEnum.read_value]
  exact ⟨⟨_, rfl⟩, ⟨_, rfl⟩, isConst_switch _ _ _, isConst_switch _ _ _⟩

theorem cadContext_back {r : SmtcRacCadContextPb} (h : CadConsts r) :
    cadContextOf (cadContextVal e r) = r := by
  show SmtcRacCadContextPb.mk _ (ofWord (word e _)) (ofWord (word e _)) _
    (ofWord (word e _)) (ofWord (word e _)) _ _ = _
  rw [ofWord_word h.cadSymbNb, ofWord_word h.cadExitMode, ofWord_word h.sf,
    ofWord_word h.bw]

/-! ## The request -/

/-- The submessages of a context. -/
inductive Part where
  | radioParams | dataBufferSetup | schedulerConfig | dataResult | lbtContext
  | cadContext | cwContext
  deriving DecidableEq, Repr

/-- What a client fills a request with: its parameters, converted, and the flags,
    which the converters leave to it.  Results of an earlier transaction may be
    left in the structure. -/
structure Request (w : NativeTypes) (Callback : Type) where
  radioAccessId : BitVec 32
  parameters : RacParameters w Callback
  named : parameters.Named
  flags : parameters.Flags
  /-- The structure that `rac_convert_cad_context_to_pb` writes to. -/
  cadContext : SmtcRacCadContextPb
  txPayload : List UInt8
  txPayload_le : txPayload.length ≤ 255
  dataResult : DataResultFields
  rxPayload_le : dataResult.rxPayloadBuffer.length ≤ 255
  /-- `has_context`, and the `has_` flags of the context. -/
  hasContext : Bool
  has : Part → Bool

def contextVal (e : IntSize) (r : Request w Callback) : (smtcRacContextPb e).Val :=
  (word e (.const SmtcRacModulationTypePb.lora),
    (r.has .radioParams,
      radioParamsVal e (racConvertRadioParamsToPb r.parameters.radioParams)),
    (r.has .dataBufferSetup, r.txPayload, ()),
    (r.has .schedulerConfig, schedulerConfigVal e
      (racConvertSchedulerConfigToPb r.parameters.schedulerConfig)),
    (r.has .dataResult, r.dataResult.val),
    (r.has .lbtContext,
      lbtContextVal (racConvertLbtContextToPb r.parameters.lbtContext)),
    (r.has .cadContext, cadContextVal e
      (racConvertCadContextToPb r.parameters.cadContext r.cadContext).2),
    (r.has .cwContext,
      cwContextVal (racConvertCwContextToPb r.parameters.cwContext)), ())

def requestVal (e : IntSize) (r : Request w Callback) :
    (smtcRacLoraRequestPb e).Val :=
  (r.radioAccessId, (r.hasContext, contextVal e r), ())

/-- What `rac_convert_context_from_pb` reads of a context. -/
def contextOf : (smtcRacContextPb e).Val → SmtcRacContextPb (BitVec 32)
  | (modulationType, (_, radioParams), (_, setup), (_, schedulerConfig),
      (_, dataResult), (_, lbtContext), (_, cadContext), (_, cwContext), _) =>
      { modulationType := ofWord modulationType
        radioParams := radioParamsOf radioParams
        txPayloadBuffer := txPayloadOf setup
        schedulerConfig := schedulerConfigOf schedulerConfig
        dataResult := (dataResultFields dataResult).read
        lbtContext := lbtContextOf lbtContext
        cadContext := cadContextOf cadContext
        cwContext := cwContextOf cwContext }

/-- The radio access that a request is for, and its context. -/
def requestOf (v : (smtcRacLoraRequestPb e).Val) :
    BitVec 32 × SmtcRacContextPb (BitVec 32) :=
  (v.1, contextOf v.2.1.2)

/-- The header declares what a client sends. -/
theorem request_declared (r : Request w Callback) :
    Declared (smtcRacLoraRequestPb e) (requestVal e r) := by
  have hradio := radioConsts r.parameters.radioParams
  have hcad := cadConsts r.named.cadContext r.cadContext
  exact ⟨trivial,
    ⟨word_lt ⟨_, rfl⟩,
      ⟨trivial, trivial,
        ⟨trivial, trivial, trivial, word_lt hradio.rttof, trivial⟩,
        trivial, trivial, word_lt hradio.sf, word_lt hradio.bw,
        word_lt hradio.cr, trivial, word_lt hradio.headerType, trivial, trivial,
        word_lt hradio.syncWord, trivial, trivial, trivial, trivial, trivial⟩,
      ⟨r.txPayload_le, trivial⟩,
      ⟨trivial, word_lt (isConst_switch _ _ _), trivial, trivial⟩,
      ⟨trivial, trivial, trivial, trivial, trivial,
        ⟨trivial, trivial, trivial, trivial, trivial⟩, r.rxPayload_le, trivial⟩,
      ⟨trivial, trivial, trivial, trivial, trivial, trivial, trivial⟩,
      ⟨trivial, word_lt hcad.cadSymbNb, word_lt hcad.cadExitMode, trivial,
        word_lt hcad.sf, word_lt hcad.bw, trivial, trivial, trivial⟩,
      ⟨trivial, trivial, trivial⟩, trivial⟩,
    trivial⟩

/-! ## What the modem has of it -/

/-- Structures of zeros. -/
def zeroRadioParams : RacRadioLoraParamsPb where
  isTx := false
  isRangingExchange := false
  hasRttof := false
  rttof := ⟨0, 0, 0, .const .bw007Khz⟩
  frequencyInHz := 0
  txPowerInDbm := 0
  sf := .const .sf5
  bw := .const .bw007Khz
  cr := .const .cr45
  preambleLenInSymb := 0
  headerType := .const .explicitHeader
  invertIqIsOn := false
  crcIsOn := false
  syncWord := .const .privateNetwork
  rxTimeoutMs := 0
  symbNbTimeout := 0
  maxRxSize := 0
  txSize := 0

def zeroSchedulerConfig : RacSchedulerConfigPb :=
  ⟨0, .const .scheduledTransaction, 0⟩

def zeroLbtContext : SmtcRacLbtContextPb := ⟨false, 0, 0, 0, 0, false⟩

def zeroCadContext : SmtcRacCadContextPb where
  cadEnabled := false
  cadSymbNb := .const .cad01Symb
  cadExitMode := .const .cadOnly
  cadTimeoutInMs := 0
  sf := .const .sf5
  bw := .const .bw007Khz
  rfFreqInHz := 0
  invertIqIsOn := false

def zeroCwContext : SmtcRacCwContextPb := ⟨false, false⟩

/-- The first constant has the value 0. -/
theorem ofWord_zero {α : Type} [DecidableEq α] [Enumerators α] {c : α}
    (hc : (Constants.constants (α := α))[0]? = some c) :
    ofWord (0 : BitVec e.bits) = .const c := by
  have hzero : (0 : BitVec e.bits).toNat = 0 := by
    cases e <;> rfl
  rw [ofWord, hzero, hc]

/-- They are what nanopb fills a structure with. -/
theorem radioParamsOf_zero :
    radioParamsOf (racRadioLoraParamsPb e).zero = zeroRadioParams := by
  show RacRadioLoraParamsPb.mk _ _ _ (RttofParamsPb.mk _ _ _ (ofWord 0)) _ _
    (ofWord 0) (ofWord 0) (ofWord 0) _ (ofWord 0) _ _ (ofWord 0) _ _ _ _ = _
  rw [ofWord_zero (c := LoraBandwidthPb.bw007Khz) rfl,
    ofWord_zero (c := LoraSpreadingFactorPb.sf5) rfl,
    ofWord_zero (c := LoraCodingRatePb.cr45) rfl,
    ofWord_zero (c := LoraPacketLengthModePb.explicitHeader) rfl,
    ofWord_zero (c := LoraSyncwordPb.privateNetwork) rfl]
  rfl

theorem schedulerConfigOf_zero :
    schedulerConfigOf (racSchedulerConfigPb e).zero = zeroSchedulerConfig := by
  show RacSchedulerConfigPb.mk _ (ofWord 0) _ = _
  rw [ofWord_zero (c := SmtcRacSchedulingPb.scheduledTransaction) rfl]
  rfl

theorem cadContextOf_zero :
    cadContextOf (smtcRacCadContextPb e).zero = zeroCadContext := by
  show SmtcRacCadContextPb.mk _ (ofWord 0) (ofWord 0) _ (ofWord 0) (ofWord 0) _ _
    = _
  rw [ofWord_zero (c := RalLoraCadSymbsPb.cad01Symb) rfl,
    ofWord_zero (c := RalLoraCadExitModesPb.cadOnly) rfl,
    ofWord_zero (c := LoraSpreadingFactorPb.sf5) rfl,
    ofWord_zero (c := LoraBandwidthPb.bw007Khz) rfl]
  rfl

/-- The flags of a part are set, so that it is sent. -/
def Request.sends (r : Request w Callback) (p : Part) : Bool :=
  r.hasContext && r.has p

/-- The payload, if it is sent. -/
def Request.payload (r : Request w Callback) : List UInt8 :=
  if r.sends .dataBufferSetup then r.txPayload else []

/-- The structures of the modem: the client's, or zeros for those that are not
    sent. -/
structure Decoded (r : Request w Callback) (pb : SmtcRacContextPb (BitVec 32)) :
    Prop where
  modulationType : pb.modulationType = .const .lora
  radioParams : pb.radioParams = if r.sends .radioParams then
    racConvertRadioParamsToPb r.parameters.radioParams else zeroRadioParams
  txPayloadBuffer : pb.txPayloadBuffer
    = { size := r.payload.length, bytes := fun i => r.payload.getD i 0 }
  schedulerConfig : pb.schedulerConfig = if r.sends .schedulerConfig then
    racConvertSchedulerConfigToPb r.parameters.schedulerConfig
    else zeroSchedulerConfig
  lbtContext : pb.lbtContext = if r.sends .lbtContext then
    racConvertLbtContextToPb r.parameters.lbtContext else zeroLbtContext
  cadContext : pb.cadContext = if r.sends .cadContext then
    (racConvertCadContextToPb r.parameters.cadContext r.cadContext).2
    else zeroCadContext
  cwContext : pb.cwContext = if r.sends .cwContext then
    racConvertCwContextToPb r.parameters.cwContext else zeroCwContext

/-- A part that may be cleared, read. -/
theorem of_cleared {d : PbMsgdesc} {β : Type} (f : d.Val → β) {v : d.Val}
    (has : Bool) {sent zero : β} (hsent : f (clear d v) = sent)
    (hzero : f d.zero = zero) :
    f (if has then clear d v else d.zero) = if has then sent else zero := by
  cases has with
  | false => exact hzero
  | true => exact hsent

/-- The context of a request that has one, and is read part by part. -/
theorem contextOf_clear (r : Request w Callback) (hcontext : r.hasContext = true) :
    Decoded r (contextOf (clear (smtcRacContextPb e) (contextVal e r))) := by
  have hsends : ∀ p, r.sends p = r.has p := by
    intro p
    rw [Request.sends, hcontext, Bool.true_and]
  have hcad := cadConsts r.named.cadContext r.cadContext
  exact {
    modulationType :=
      ofWord_word (e := e) (x := .const SmtcRacModulationTypePb.lora) ⟨_, rfl⟩
    radioParams := by
      rw [hsends]
      exact of_cleared radioParamsOf (r.has .radioParams)
        (radioParams_back (radioConsts r.parameters.radioParams))
        radioParamsOf_zero
    txPayloadBuffer := by
      rw [Request.payload, hsends]
      refine (of_cleared txPayloadOf (r.has .dataBufferSetup) rfl rfl).trans ?_
      cases r.has .dataBufferSetup <;> rfl
    schedulerConfig := by
      rw [hsends]
      exact of_cleared schedulerConfigOf (r.has .schedulerConfig)
        (schedulerConfig_back (isConst_switch _ _ _)) schedulerConfigOf_zero
    lbtContext := by
      rw [hsends]
      exact of_cleared lbtContextOf (r.has .lbtContext) rfl rfl
    cadContext := by
      rw [hsends]
      exact of_cleared cadContextOf (r.has .cadContext) (cadContext_back hcad)
        cadContextOf_zero
    cwContext := by
      rw [hsends]
      exact of_cleared cwContextOf (r.has .cwContext) rfl rfl }

/-- And of one that has none. -/
theorem contextOf_zero (r : Request w Callback) (hcontext : r.hasContext = false) :
    Decoded r (contextOf (smtcRacContextPb e).zero) := by
  have hsends : ∀ p, r.sends p = false := by
    intro p
    rw [Request.sends, hcontext, Bool.false_and]
  exact {
    modulationType :=
      ofWord_zero (e := e) (c := SmtcRacModulationTypePb.lora) rfl
    radioParams := by
      rw [hsends]
      exact radioParamsOf_zero
    txPayloadBuffer := by
      rw [Request.payload, hsends]
      rfl
    schedulerConfig := by
      rw [hsends]
      exact schedulerConfigOf_zero
    lbtContext := by
      rw [hsends]
      rfl
    cadContext := by
      rw [hsends]
      exact cadContextOf_zero
    cwContext := by
      rw [hsends]
      rfl }

theorem requestOf_clear (r : Request w Callback) :
    (requestOf (clear (smtcRacLoraRequestPb e) (requestVal e r))).1
        = r.radioAccessId
      ∧ Decoded r
        (requestOf (clear (smtcRacLoraRequestPb e) (requestVal e r))).2 := by
  refine ⟨rfl, ?_⟩
  show Decoded r (contextOf (if r.hasContext then
    clear (smtcRacContextPb e) (contextVal e r) else (smtcRacContextPb e).zero))
  cases hcontext : r.hasContext with
  | true => exact contextOf_clear r hcontext
  | false => exact contextOf_zero r hcontext

/-! ## The way of a request -/

/-- The modem's context after a request: of each part that is sent the client's
    parameters, but for the callbacks, which are not sent, and the upper half of
    `symb_nb_timeout`; of each other part zeros; and the payload at the beginning
    of the TX buffer, with nothing written behind it. -/
structure Arrived (r : Request w Callback) (native n : SmtcRacContext w Callback) :
    Prop where
  modulationType : n.modulationType = w.modulationType.value .lora
  radioParams : n.radioParams = if r.sends .radioParams then
    { r.parameters.radioParams with
      symbNbTimeout :=
        (r.parameters.radioParams.symbNbTimeout.setWidth 8).setWidth 16 }
    else racConvertRadioParamsFromPb zeroRadioParams native.radioParams
  schedulerConfig : n.schedulerConfig = if r.sends .schedulerConfig then
    { r.parameters.schedulerConfig with
      callbackPreRadioTransaction :=
        native.schedulerConfig.callbackPreRadioTransaction
      callbackPostRadioTransaction :=
        native.schedulerConfig.callbackPostRadioTransaction }
    else racConvertSchedulerConfigFromPb zeroSchedulerConfig native.schedulerConfig
  lbtContext : n.lbtContext = if r.sends .lbtContext then
    r.parameters.lbtContext
    else racConvertLbtContextFromPb zeroLbtContext native.lbtContext
  cadContext : n.cadContext = if r.sends .cadContext then
    r.parameters.cadContext
    else (racConvertCadContextFromPb zeroCadContext native.cadContext).2
  cwContext : n.cwContext = if r.sends .cwContext then
    r.parameters.cwContext
    else racConvertCwContextFromPb zeroCwContext native.cwContext
  txPayload : ∀ buffer, native.dataBufferSetup.txPayloadBuffer = some buffer →
    ∃ buffer', n.dataBufferSetup.txPayloadBuffer = some buffer'
      ∧ (∀ i < r.payload.length, buffer' i = r.payload.getD i 0)
      ∧ ∀ i ≥ r.payload.length, buffer' i = buffer i
  capacity : r.payload.length ≤ n.dataBufferSetup.sizeOfTxPayloadBuffer

/-- The payload is copied to the beginning of the buffer. -/
theorem dataBufferSetup_copies {pb : TxPayloadPb}
    {native : SmtcRacDataBufferSetup} {buffer : Nat → UInt8}
    (hbuffer : native.txPayloadBuffer = some buffer) (hsize : pb.size ≤ 255) :
    (racConvertDataBufferSetupFromPb pb native).2.txPayloadBuffer
      = some (splice buffer 0 pb.size pb.bytes) := by
  rw [racConvertDataBufferSetupFromPb]
  by_cases hpos : pb.size > 0
  · rw [if_pos hpos, hbuffer]
    dsimp only
    rw [if_neg (Nat.not_lt.mpr hsize)]
  · have hzero : pb.size = 0 := Nat.eq_zero_of_not_pos hpos
    rw [if_neg hpos, hzero, splice_zero]
    exact hbuffer

/-- The capacity is not touched. -/
theorem dataBufferSetup_capacity (pb : TxPayloadPb)
    (native : SmtcRacDataBufferSetup) :
    (racConvertDataBufferSetupFromPb pb native).2.sizeOfTxPayloadBuffer
      = native.sizeOfTxPayloadBuffer := by
  rw [racConvertDataBufferSetupFromPb]
  split
  · split
    · rfl
    · split <;> rfl
  · rfl

theorem payload_le (r : Request w Callback) : r.payload.length ≤ 255 := by
  rw [Request.payload]
  split
  · exact r.txPayload_le
  · exact Nat.zero_le _

/-- The modem accepts the request. -/
theorem decoded_accepts {r : Request w Callback}
    {native : SmtcRacContext w Callback} {pb : SmtcRacContextPb (BitVec 32)}
    (h : Decoded r pb)
    (hbuffer : r.payload ≠ [] →
      native.dataBufferSetup.txPayloadBuffer.isSome = true) :
    Accepts pb native := by
  have hcad := cadConsts r.named.cadContext r.cadContext
  refine ⟨h.modulationType, ?_, ?_, fun hpos => ?_⟩
  · rw [h.cadContext]
    split
    · exact hcad.cadExitMode
    · exact ⟨_, rfl⟩
  · rw [h.cadContext]
    split
    · exact hcad.cadSymbNb
    · exact ⟨_, rfl⟩
  · rw [h.txPayloadBuffer] at hpos ⊢
    exact ⟨hbuffer (List.ne_nil_of_length_pos hpos), payload_le r⟩

/-- A part that may be missing, converted. -/
theorem converted {α β : Type} (f : α → β) (sends : Bool) {pb sent zero : α}
    {native : β} (hpb : pb = if sends then sent else zero)
    (hsent : f sent = native) : f pb = if sends then native else f zero := by
  rw [hpb]
  cases sends with
  | false => rfl
  | true => exact hsent

/-- What the converter of the modem makes of it. -/
theorem request_converted {r : Request w Callback}
    {native : SmtcRacContext w Callback} {pb : SmtcRacContextPb (BitVec 32)}
    (casts : FloatCasts (BitVec 32)) (h : Decoded r pb)
    (hbuffer : r.payload ≠ [] →
      native.dataBufferSetup.txPayloadBuffer.isSome = true)
    (hcapacity : r.payload.length ≤ native.dataBufferSetup.sizeOfTxPayloadBuffer) :
    ∃ n, racConvertContextFromPb casts pb native = (true, n)
      ∧ Arrived r native n := by
  have haccepts := decoded_accepts h hbuffer
  rcases convert_cases casts pb native with
    ⟨hmod, -⟩ | ⟨-, hno, -⟩ | ⟨-, heq⟩
  · exact absurd haccepts.modulationType hmod
  · exact absurd haccepts hno
  · refine ⟨_, heq, ?_⟩
    exact {
      modulationType := by
        show racConvertModulationTypeFromPb w.modulationType pb.modulationType = _
        rw [h.modulationType]
        rfl
      radioParams := converted
        (fun pb => racConvertRadioParamsFromPb pb native.radioParams)
        (r.sends .radioParams) h.radioParams
        (radioParams_named r.flags.radioParams r.named.radioParams
          native.radioParams)
      schedulerConfig := converted
        (fun pb => racConvertSchedulerConfigFromPb pb native.schedulerConfig)
        (r.sends .schedulerConfig) h.schedulerConfig
        (schedulerConfig_named r.named.scheduling native.schedulerConfig)
      lbtContext := converted
        (fun pb => racConvertLbtContextFromPb pb native.lbtContext)
        (r.sends .lbtContext) h.lbtContext
        (lbtContext_roundTrip r.parameters.lbtContext native.lbtContext)
      cadContext := converted
        (fun pb => (racConvertCadContextFromPb pb native.cadContext).2)
        (r.sends .cadContext) h.cadContext
        (congrArg Prod.snd (cadContext_named r.flags.cadContext
          r.named.cadContext r.cadContext native.cadContext).2)
      cwContext := converted
        (fun pb => racConvertCwContextFromPb pb native.cwContext)
        (r.sends .cwContext) h.cwContext
        (cwContext_roundTrip r.parameters.cwContext native.cwContext)
      txPayload := by
        intro buffer hsome
        refine ⟨splice buffer 0 r.payload.length fun i => r.payload.getD i 0, ?_,
          fun i hi => splice_inside (Nat.zero_le i) (by omega),
          fun i hi => splice_outside (Or.inr (by omega))⟩
        show (racConvertDataBufferSetupFromPb pb.txPayloadBuffer
          native.dataBufferSetup).2.txPayloadBuffer = _
        rw [h.txPayloadBuffer]
        exact dataBufferSetup_copies hsome (payload_le r)
      capacity := by
        show _ ≤ (racConvertDataBufferSetupFromPb pb.txPayloadBuffer
          native.dataBufferSetup).2.sizeOfTxPayloadBuffer
        rw [dataBufferSetup_capacity]
        exact hcapacity }

/-- A ranging reply with two bytes, and without a CAD context. -/
def sampleClient : Request wideNative Unit where
  radioAccessId := 3
  parameters := sampleParameters 255
  named := sampleParameters_named 255
  flags := sampleParameters_flags 255
  cadContext :=
    { cadEnabled := true, cadSymbNb := .other 9, cadExitMode := .other 9
      cadTimeoutInMs := 0, sf := .other 9, bw := .other 99, rfFreqInHz := 0
      invertIqIsOn := false }
  txPayload := [0x48, 0x69]
  txPayload_le := by decide
  dataResult := emptyFields
  rxPayload_le := by decide
  hasContext := true
  has := fun p => decide (p ≠ .cadContext ∧ p ≠ .dataResult)

end RacRequest
