import UspZephyr.ByteMemoryProofs
import UspZephyr.RacConverterProofs

/-! # What a host's request does to the context

    `rac_convert_context_from_pb` turns the context a host has sent into the
    native context, in place, one structure after another.  Everything the
    three results below say is read off `convert_cases`, which lists the four
    ways through it:

    * `request_taken`: what an accepted request leaves in the native fields;
    * `refused_changes`: what a refused one has changed by then;
    * `txPayloadFits_iff`: when the payload fits the buffer it is copied to, and
      covers what will be sent. -/

namespace RacContext

open ByteMemory FieldCodec RacEnum RacConverter

/-- `ranging_result_pb_t`, as far as it is read. -/
structure RangingResultPb (F : Type) where
  valid : Bool
  distanceM : F
  rssi : F

/-- `smtc_rac_data_result_pb_t`, as far as it is read. -/
structure SmtcRacDataResultPb (F : Type) where
  rxSize : BitVec 32
  rssiResult : BitVec 32
  snrResult : BitVec 32
  radioEndTimestampMs : BitVec 32
  radioStartTimestampMs : BitVec 32
  rangingResult : RangingResultPb F

/-- `tx_payload_buffer` of `smtc_rac_data_buffer_setup_pb_t`. -/
structure TxPayloadPb where
  size : Nat
  bytes : Nat → UInt8

/-- `smtc_rac_context_pb_t`; none of its `has_` flags is read. -/
structure SmtcRacContextPb (F : Type) where
  modulationType : CEnum SmtcRacModulationTypePb
  radioParams : RacRadioLoraParamsPb
  txPayloadBuffer : TxPayloadPb
  schedulerConfig : RacSchedulerConfigPb
  dataResult : SmtcRacDataResultPb F
  lbtContext : SmtcRacLbtContextPb
  cadContext : SmtcRacCadContextPb
  cwContext : SmtcRacCwContextPb

/-- The native ranging result. -/
structure RangingResult where
  rawDistance : Int
  distanceM : BitVec 32
  rssi : BitVec 8

/-- `smtc_rac_data_result_t`. -/
structure SmtcRacDataResult (w : NativeTypes) where
  rxSize : BitVec (w.width .rxSize)
  rssiResult : BitVec (w.width .rssiResult)
  snrResult : BitVec (w.width .snrResult)
  radioEndTimestampMs : BitVec (w.width .radioEndTimestampMs)
  radioStartTimestampMs : BitVec (w.width .radioStartTimestampMs)
  rangingResult : RangingResult

/-- `smtc_rac_data_buffer_setup_t`: the memory from the TX buffer on, `none` for
    a null pointer, and the capacity of the buffer. -/
structure SmtcRacDataBufferSetup where
  txPayloadBuffer : Option (Nat → UInt8)
  sizeOfTxPayloadBuffer : Nat

/-- `smtc_rac_context_t`. -/
structure SmtcRacContext (w : NativeTypes) (Callback : Type) where
  modulationType : Int
  radioParams : SmtcRacRadioLoraParams w
  dataBufferSetup : SmtcRacDataBufferSetup
  schedulerConfig : SmtcRacSchedulerConfig w Callback
  dataResult : SmtcRacDataResult w
  lbtContext : SmtcRacLbtContext w
  cadContext : SmtcRacCadRadioParams w
  cwContext : SmtcRacCwContext

/-- The casts of a `float` to an integer. -/
structure FloatCasts (F : Type) where
  toInt32 : F → BitVec 32
  toInt8 : F → BitVec 8

variable {w : NativeTypes} {Callback F : Type}

/-- `rac_convert_data_buffer_setup_from_pb`: whether it returned true, and the
    structure as the call leaves it. -/
def racConvertDataBufferSetupFromPb (pb : TxPayloadPb)
    (native : SmtcRacDataBufferSetup) : Bool × SmtcRacDataBufferSetup :=
  if pb.size > 0 then
    match native.txPayloadBuffer with
    | none => (false, native)
    | some buffer =>
        if pb.size > 255 then (false, native)
        else
          (true,
            { native with
              txPayloadBuffer := some (splice buffer 0 pb.size pb.bytes) })
  else (true, native)

/-- `rac_convert_data_result_from_pb`. -/
def racConvertDataResultFromPb (casts : FloatCasts F)
    (pb : SmtcRacDataResultPb F) (native : SmtcRacDataResult w) :
    SmtcRacDataResult w :=
  { native with
    rxSize := pb.rxSize.setWidth _
    rssiResult := pb.rssiResult.setWidth _
    snrResult := pb.snrResult.setWidth _
    radioEndTimestampMs := pb.radioEndTimestampMs.setWidth _
    radioStartTimestampMs := pb.radioStartTimestampMs.setWidth _
    rangingResult :=
      if pb.rangingResult.valid then
        { rawDistance := 0
          distanceM := casts.toInt32 pb.rangingResult.distanceM
          rssi := casts.toInt8 pb.rangingResult.rssi }
      else native.rangingResult }

/-- `rac_convert_context_from_pb`: whether it returned true, and the context as
    the call leaves it.  Neither pointer is null. -/
def racConvertContextFromPb (casts : FloatCasts F) (pb : SmtcRacContextPb F)
    (native : SmtcRacContext w Callback) : Bool × SmtcRacContext w Callback :=
  if pb.modulationType ≠ .const .lora then (false, native)
  else
    let native := { native with
      modulationType :=
        racConvertModulationTypeFromPb w.modulationType pb.modulationType }
    let native := { native with
      radioParams := racConvertRadioParamsFromPb pb.radioParams
        native.radioParams }
    let native := { native with
      lbtContext := racConvertLbtContextFromPb pb.lbtContext native.lbtContext }
    let native := { native with
      cwContext := racConvertCwContextFromPb pb.cwContext native.cwContext }
    let cad := racConvertCadContextFromPb pb.cadContext native.cadContext
    let native := { native with cadContext := cad.2 }
    if cad.1 = false then (false, native)
    else
      let setup := racConvertDataBufferSetupFromPb pb.txPayloadBuffer
        native.dataBufferSetup
      let native := { native with dataBufferSetup := setup.2 }
      if setup.1 = false then (false, native)
      else
        let native := { native with
          dataResult := racConvertDataResultFromPb casts pb.dataResult
            native.dataResult }
        let native := { native with
          schedulerConfig := racConvertSchedulerConfigFromPb pb.schedulerConfig
            native.schedulerConfig }
        (true, native)

/-! ## The ways through the conversion -/

/-- The context after modulation, radio parameters, LBT, CW and CAD, the last
    as far as its converter got. -/
def headConverted (pb : SmtcRacContextPb F) (native : SmtcRacContext w Callback) :
    SmtcRacContext w Callback :=
  { native with
    modulationType :=
      racConvertModulationTypeFromPb w.modulationType pb.modulationType
    radioParams := racConvertRadioParamsFromPb pb.radioParams native.radioParams
    lbtContext := racConvertLbtContextFromPb pb.lbtContext native.lbtContext
    cwContext := racConvertCwContextFromPb pb.cwContext native.cwContext
    cadContext := (racConvertCadContextFromPb pb.cadContext
      native.cadContext).2 }

/-- What the host has to send for the request to be accepted. -/
structure Accepts (pb : SmtcRacContextPb F) (native : SmtcRacContext w Callback) :
    Prop where
  modulationType : pb.modulationType = .const .lora
  cadExitMode : pb.cadContext.cadExitMode.IsConst
  cadSymbNb : pb.cadContext.cadSymbNb.IsConst
  txPayload : pb.txPayloadBuffer.size > 0 →
    native.dataBufferSetup.txPayloadBuffer.isSome = true
      ∧ pb.txPayloadBuffer.size ≤ 255

/-- The CAD converter accepts constants, and writes all fields then. -/
theorem cadContext_accepts_iff (pb : SmtcRacCadContextPb)
    (native : SmtcRacCadRadioParams w) :
    (racConvertCadContextFromPb pb native).1 = true
      ↔ pb.cadExitMode.IsConst ∧ pb.cadSymbNb.IsConst := by
  have hmode : (CEnum.switch? cadExitModeFromPbTable pb.cadExitMode).isSome = true
      ↔ _ := CEnum.switch?_isSome
  have hsymb : (CEnum.switch? cadSymbNbFromPbTable pb.cadSymbNb).isSome = true
      ↔ _ := CEnum.switch?_isSome
  rw [← hmode, ← hsymb, racConvertCadContextFromPb]
  cases CEnum.switch? cadExitModeFromPbTable pb.cadExitMode with
  | none => simp
  | some m =>
      cases CEnum.switch? cadSymbNbFromPbTable pb.cadSymbNb with
      | none => simp
      | some s => simp

/-- The payload is refused, and then nothing is copied, when there is no buffer
    for it or it is longer than 255 bytes. -/
theorem dataBufferSetup_accepts_iff (pb : TxPayloadPb)
    (native : SmtcRacDataBufferSetup) :
    (racConvertDataBufferSetupFromPb pb native).1 = true
      ↔ (pb.size > 0 → native.txPayloadBuffer.isSome = true ∧ pb.size ≤ 255) := by
  rw [racConvertDataBufferSetupFromPb]
  by_cases hpos : pb.size > 0
  · cases native.txPayloadBuffer with
    | none => simp [hpos]
    | some buffer =>
        by_cases hbig : pb.size > 255
        · simp [hpos, hbig]
        · simp [hpos, hbig]
          omega
  · simp [hpos]

theorem dataBufferSetup_refused {pb : TxPayloadPb}
    {native : SmtcRacDataBufferSetup}
    (h : (racConvertDataBufferSetupFromPb pb native).1 = false) :
    (racConvertDataBufferSetupFromPb pb native).2 = native := by
  rw [racConvertDataBufferSetupFromPb] at h ⊢
  by_cases hpos : pb.size > 0
  · rw [if_pos hpos] at h ⊢
    cases hb : native.txPayloadBuffer with
    | none => rfl
    | some buffer =>
        rw [hb] at h
        by_cases hbig : pb.size > 255
        · exact congrArg Prod.snd (if_pos hbig)
        · simp only [if_neg hbig] at h
          exact nomatch h
  · rw [if_neg hpos] at h
    exact nomatch h

/-- **THE WAYS THROUGH**: refused for the modulation, before anything is
    written; refused for CAD or the payload, after the fields in front of them
    are written; or accepted. -/
theorem convert_cases (casts : FloatCasts F) (pb : SmtcRacContextPb F)
    (native : SmtcRacContext w Callback) :
    (pb.modulationType ≠ .const .lora
        ∧ racConvertContextFromPb casts pb native = (false, native))
      ∨ (pb.modulationType = .const .lora ∧ ¬ Accepts pb native
        ∧ racConvertContextFromPb casts pb native
          = (false, headConverted pb native))
      ∨ (Accepts pb native
        ∧ racConvertContextFromPb casts pb native
          = (true, { headConverted pb native with
              dataBufferSetup := (racConvertDataBufferSetupFromPb
                pb.txPayloadBuffer native.dataBufferSetup).2
              dataResult := racConvertDataResultFromPb casts pb.dataResult
                native.dataResult
              schedulerConfig := racConvertSchedulerConfigFromPb
                pb.schedulerConfig native.schedulerConfig })) := by
  rw [racConvertContextFromPb]
  by_cases hmod : pb.modulationType = .const .lora
  · rw [if_neg (fun h => h hmod)]
    refine Or.inr ?_
    have hcad := cadContext_accepts_iff pb.cadContext native.cadContext
    have hsetup := dataBufferSetup_accepts_iff pb.txPayloadBuffer
      native.dataBufferSetup
    cases hc : (racConvertCadContextFromPb pb.cadContext native.cadContext).1 with
    | false =>
        refine Or.inl ⟨hmod, ?_, if_pos hc⟩
        intro h
        exact absurd (hcad.mpr ⟨h.cadExitMode, h.cadSymbNb⟩)
          (Bool.eq_false_iff.mp hc)
    | true =>
        have hconst := hcad.mp hc
        have hc' : ¬ (racConvertCadContextFromPb pb.cadContext
            native.cadContext).1 = false := by
          rw [hc]
          decide
        cases hs : (racConvertDataBufferSetupFromPb pb.txPayloadBuffer
            native.dataBufferSetup).1 with
        | false =>
            -- the setup is written back as it was
            refine Or.inl ⟨hmod, ?_, ?_⟩
            · intro h
              exact absurd (hsetup.mpr h.txPayload) (Bool.eq_false_iff.mp hs)
            · refine (if_neg hc').trans ((if_pos hs).trans ?_)
              rw [dataBufferSetup_refused hs]
              rfl
        | true =>
            have hs' : ¬ (racConvertDataBufferSetupFromPb pb.txPayloadBuffer
                native.dataBufferSetup).1 = false := by
              rw [hs]
              decide
            exact Or.inr ⟨⟨hmod, hconst.1, hconst.2, hsetup.mp hs⟩,
              (if_neg hc').trans (if_neg hs')⟩
  · exact Or.inl ⟨hmod, if_pos hmod⟩

/-- Which requests are accepted. -/
theorem accepted_iff (casts : FloatCasts F) (pb : SmtcRacContextPb F)
    (native : SmtcRacContext w Callback) :
    (racConvertContextFromPb casts pb native).1 = true ↔ Accepts pb native := by
  rcases convert_cases casts pb native with
    ⟨hmod, h⟩ | ⟨-, hno, h⟩ | ⟨hacc, h⟩
  · rw [h]
    exact ⟨nofun, fun hacc => absurd hacc.modulationType hmod⟩
  · rw [h]
    exact ⟨nofun, fun hacc => absurd hacc hno⟩
  · rw [h]
    exact ⟨fun _ => hacc, fun _ => rfl⟩

/-! ## What an accepted request leaves -/

/-- Ranging parameters taken from the request. -/
structure RttofTaken (pb : RttofParamsPb) (n : SmtcRacRttofParams w) : Prop where
  requestAddress : Reduced pb.requestAddress n.requestAddress
  delayIndicator : Reduced pb.delayIndicator n.delayIndicator
  responseSymbolsCount : Reduced pb.responseSymbolsCount n.responseSymbolsCount
  bwRanging : CEnum.SameMeaningOr LoraBandwidthPb.khz RalLoraBw.khz .bw125Khz
    pb.bwRanging (w.bw.read n.bwRanging)

/-- Radio parameters taken from the request: integers reduced to the width of
    their native field, enumerations by meaning, with a default for a value
    that has none. -/
structure RadioParamsTaken (pb : RacRadioLoraParamsPb)
    (n : SmtcRacRadioLoraParams w) : Prop where
  isTx : n.isTx = pb.isTx
  isRangingExchange : n.isRangingExchange = pb.isRangingExchange
  rttof : RttofTaken pb.rttof n.rttof
  frequencyInHz : Reduced pb.frequencyInHz n.frequencyInHz
  txPowerInDbm : Reduced pb.txPowerInDbm n.txPowerInDbm
  sf : CEnum.SameMeaningOr LoraSpreadingFactorPb.factor RalLoraSf.factor .sf7
    pb.sf (w.sf.read n.sf)
  bw : CEnum.SameMeaningOr LoraBandwidthPb.khz RalLoraBw.khz .bw125Khz
    pb.bw (w.bw.read n.bw)
  cr : CEnum.SameMeaningOr LoraCodingRatePb.rate RalLoraCr.rate .cr45
    pb.cr (w.cr.read n.cr)
  preambleLenInSymb : Reduced pb.preambleLenInSymb n.preambleLenInSymb
  headerType : CEnum.SameMeaningOr LoraPacketLengthModePb.carriesLength
    RalLoraPktLenModes.carriesLength .explicit pb.headerType
    (w.headerType.read n.headerType)
  invertIqIsOn : n.invertIqIsOn.toNat = pb.invertIqIsOn.toNat
  crcIsOn : n.crcIsOn.toNat = pb.crcIsOn.toNat
  syncWord : CEnum.SameMeaningOr LoraSyncwordPb.byte SmtcRacLoraSyncword.byte
    .privateNetwork pb.syncWord (w.syncWord.read n.syncWord)
  rxTimeoutMs : Reduced pb.rxTimeoutMs n.rxTimeoutMs
  symbNbTimeout : pb.symbNbTimeout.toNat < 256 →
    n.symbNbTimeout.toNat = pb.symbNbTimeout.toNat
  maxRxSize : Reduced pb.maxRxSize n.maxRxSize
  txSize : Reduced pb.txSize n.txSize

structure LbtTaken (pb : SmtcRacLbtContextPb) (n : SmtcRacLbtContext w) :
    Prop where
  lbtEnabled : n.lbtEnabled = pb.lbtEnabled
  listenDurationMs : Reduced pb.listenDurationMs n.listenDurationMs
  thresholdDbm : ReducedSigned pb.thresholdDbm n.thresholdDbm
  bandwidthHz : Reduced pb.bandwidthHz n.bandwidthHz
  rssiInstDbm : ReducedSigned pb.rssiInstDbm n.rssiInstDbm
  channelBusy : n.channelBusy = pb.channelBusy

/-- CAD parameters taken from the request; exit mode and symbol number have no
    default. -/
structure CadTaken (pb : SmtcRacCadContextPb) (n : SmtcRacCadRadioParams w) :
    Prop where
  cadTimeoutInMs : Reduced pb.cadTimeoutInMs n.cadTimeoutInMs
  cadExitMode : CEnum.SameMeaning RalLoraCadExitModesPb.next
    RalLoraCadExitModes.next pb.cadExitMode (w.cadExitMode.read n.cadExitMode)
  cadSymbNb : CEnum.SameMeaning RalLoraCadSymbsPb.symbols
    RalLoraCadSymbs.symbols pb.cadSymbNb (w.cadSymbNb.read n.cadSymbNb)
  sf : CEnum.SameMeaningOr LoraSpreadingFactorPb.factor RalLoraSf.factor .sf7
    pb.sf (w.sf.read n.sf)
  bw : CEnum.SameMeaningOr LoraBandwidthPb.khz RalLoraBw.khz .bw125Khz
    pb.bw (w.bw.read n.bw)
  rfFreqInHz : Reduced pb.rfFreqInHz n.rfFreqInHz
  invertIqIsOn : n.invertIqIsOn = ofBool pb.invertIqIsOn

structure SchedulerTaken (pb : RacSchedulerConfigPb)
    (n : SmtcRacSchedulerConfig w Callback) : Prop where
  startTimeMs : Reduced pb.startTimeMs n.startTimeMs
  scheduling : CEnum.SameMeaningOr SmtcRacSchedulingPb.waits
    SmtcRacScheduling.waits .asapTransaction pb.scheduling
    (w.scheduling.read n.scheduling)
  durationTimeMs : Reduced pb.durationTimeMs n.durationTimeMs

/-- The request is what the native context says. -/
structure RequestTaken (pb : SmtcRacContextPb F) (n : SmtcRacContext w Callback) :
    Prop where
  modulationType : pb.modulationType = .const .lora
    ∧ n.modulationType = w.modulationType.value .lora
  radioParams : RadioParamsTaken pb.radioParams n.radioParams
  lbtContext : LbtTaken pb.lbtContext n.lbtContext
  cwEnabled : n.cwContext.cwEnabled = pb.cwContext.cwEnabled
  infinitePreamble : n.cwContext.infinitePreamble
    = pb.cwContext.infinitePreamble
  cadContext : CadTaken pb.cadContext n.cadContext
  schedulerConfig : SchedulerTaken pb.schedulerConfig n.schedulerConfig

theorem rttof_taken (pb : RttofParamsPb) (native : SmtcRacRttofParams w) :
    RttofTaken pb (racConvertRttofFromPb pb native) where
  requestAddress := reduced_narrow _
  delayIndicator := reduced_narrow _
  responseSymbolsCount := reduced_narrow _
  bwRanging := w.bw.switch_sameMeaning bwTable_khz _ _

theorem radioParams_taken (pb : RacRadioLoraParamsPb)
    (native : SmtcRacRadioLoraParams w) :
    RadioParamsTaken pb (racConvertRadioParamsFromPb pb native) where
  isTx := rfl
  isRangingExchange := rfl
  rttof := rttof_taken pb.rttof native.rttof
  frequencyInHz := reduced_narrow _
  txPowerInDbm := reduced_narrow _
  sf := w.sf.switch_sameMeaning sfTable_factor _ _
  bw := w.bw.switch_sameMeaning bwTable_khz _ _
  cr := w.cr.switch_sameMeaning crTable_rate _ _
  preambleLenInSymb := reduced_narrow _
  headerType := w.headerType.switch_sameMeaning headerTypeTable_carriesLength _ _
  invertIqIsOn := by
    show (ofBool pb.invertIqIsOn : BitVec 8).toNat = _
    cases pb.invertIqIsOn <;> rfl
  crcIsOn := by
    show (ofBool pb.crcIsOn : BitVec 8).toNat = _
    cases pb.crcIsOn <;> rfl
  syncWord := w.syncWord.switch_sameMeaning syncWordTable_byte _ _
  rxTimeoutMs := reduced_narrow _
  symbNbTimeout := by
    intro h
    show ((pb.symbNbTimeout.setWidth 8).setWidth 16).toNat = _
    rw [BitVec.toNat_setWidth, BitVec.toNat_setWidth]
    omega
  maxRxSize := reduced_narrow _
  txSize := reduced_narrow _

theorem lbt_taken (pb : SmtcRacLbtContextPb) (native : SmtcRacLbtContext w) :
    LbtTaken pb (racConvertLbtContextFromPb pb native) where
  lbtEnabled := rfl
  listenDurationMs := reduced_narrow _
  thresholdDbm := reducedSigned_narrow (by decide) _
  bandwidthHz := reduced_narrow _
  rssiInstDbm := reducedSigned_narrow (by decide) _
  channelBusy := rfl

theorem cad_taken {pb : SmtcRacCadContextPb} (native : SmtcRacCadRadioParams w)
    (hmode : pb.cadExitMode.IsConst) (hsymb : pb.cadSymbNb.IsConst) :
    CadTaken pb (racConvertCadContextFromPb pb native).2 := by
  obtain ⟨m, hm⟩ := Option.isSome_iff_exists.mp
    (CEnum.switch?_isSome.mpr hmode : (CEnum.switch? cadExitModeFromPbTable
      pb.cadExitMode).isSome = true)
  obtain ⟨s, hs⟩ := Option.isSome_iff_exists.mp
    (CEnum.switch?_isSome.mpr hsymb : (CEnum.switch? cadSymbNbFromPbTable
      pb.cadSymbNb).isSome = true)
  rw [racConvertCadContextFromPb, hm, hs]
  exact {
    cadTimeoutInMs := reduced_narrow _
    cadExitMode := w.cadExitMode.switch?_sameMeaning cadExitModeTable_next hm
    cadSymbNb := w.cadSymbNb.switch?_sameMeaning cadSymbNbTable_symbols hs
    sf := w.sf.switch_sameMeaning sfTable_factor _ _
    bw := w.bw.switch_sameMeaning bwTable_khz _ _
    rfFreqInHz := reduced_narrow _
    invertIqIsOn := rfl }

theorem scheduler_taken (pb : RacSchedulerConfigPb)
    (native : SmtcRacSchedulerConfig w Callback) :
    SchedulerTaken pb (racConvertSchedulerConfigFromPb pb native) where
  startTimeMs := reduced_narrow _
  scheduling := w.scheduling.switch_sameMeaning schedulingTable_waits _ _
  durationTimeMs := reduced_narrow _

/-! ## A request and a context -/

/-- A transmission of `payload` zero bytes. -/
def sampleRequest (payload : Nat) : SmtcRacContextPb Unit where
  modulationType := .const .lora
  radioParams :=
    { isTx := true
      isRangingExchange := false
      hasRttof := false
      rttof := ⟨0#32, 0#32, 0#32, .const .bw500Khz⟩
      frequencyInHz := 868100000#32
      txPowerInDbm := 14#32
      sf := .const .sf9
      bw := .const .bw125Khz
      cr := .const .cr45
      preambleLenInSymb := 8#32
      headerType := .const .explicitHeader
      invertIqIsOn := false
      crcIsOn := true
      syncWord := .const .publicNetwork
      rxTimeoutMs := 0#32
      symbNbTimeout := 0#32
      maxRxSize := 0#32
      txSize := 8#32 }
  txPayloadBuffer := ⟨payload, fun _ => 0⟩
  schedulerConfig := ⟨0#32, .const .asapTransaction, 100#32⟩
  dataResult := ⟨0#32, 0#32, 0#32, 0#32, 0#32, ⟨false, (), ()⟩⟩
  lbtContext := ⟨false, 0#32, -80#32, 0#32, 0#32, false⟩
  cadContext := ⟨false, .const .cad04Symb, .const .cadOnly, 0#32, .const .sf9,
    .const .bw125Khz, 868100000#32, false⟩
  cwContext := ⟨false, false⟩

/-- A context with a TX buffer of `capacity` bytes. -/
def sampleContext (capacity : Nat) : SmtcRacContext wideNative Unit where
  modulationType := wideNative.modulationType.value .lora
  radioParams := (sampleParameters 0).radioParams
  dataBufferSetup := ⟨some (fun _ => 0xAA), capacity⟩
  schedulerConfig := (sampleParameters 0).schedulerConfig
  dataResult := ⟨0#32, 0#32, 0#32, 0#32, 0#32, ⟨0, 0#32, 0#8⟩⟩
  lbtContext := (sampleParameters 0).lbtContext
  cadContext := (sampleParameters 0).cadContext
  cwContext := (sampleParameters 0).cwContext

def zeroCasts : FloatCasts Unit := ⟨fun _ => 0#32, fun _ => 0#8⟩

/-- A power of 256 dBm and an unknown spreading factor. -/
def oddRequest : SmtcRacContextPb Unit :=
  { sampleRequest 8 with
    radioParams := { (sampleRequest 8).radioParams with
      txPowerInDbm := 256#32
      sf := .other 99 } }

/-- An unknown CAD exit mode. -/
def badCadRequest : SmtcRacContextPb Unit :=
  { sampleRequest 8 with
    cadContext := { (sampleRequest 8).cadContext with cadExitMode := .other 9 } }

/-! ## The three results -/

/-- **WHAT AN ACCEPTED REQUEST LEAVES**: integers reduced to the native width,
    enumerations by meaning or by default; and a request is accepted exactly
    when its modulation is LoRa, its CAD exit mode and symbol number are known
    and there is a buffer for its payload. -/
theorem request_taken (casts : FloatCasts F) (pb : SmtcRacContextPb F)
    (native : SmtcRacContext w Callback) :
    ((racConvertContextFromPb casts pb native).1 = true ↔ Accepts pb native)
      ∧ ((racConvertContextFromPb casts pb native).1 = true →
        RequestTaken pb (racConvertContextFromPb casts pb native).2) := by
  refine ⟨accepted_iff casts pb native, ?_⟩
  intro htrue
  rcases convert_cases casts pb native with
    ⟨-, h⟩ | ⟨-, -, h⟩ | ⟨hacc, h⟩
  · rw [h] at htrue
    exact nomatch htrue
  · rw [h] at htrue
    exact nomatch htrue
  · rw [h]
    exact {
      modulationType := by
        refine ⟨hacc.modulationType, ?_⟩
        show racConvertModulationTypeFromPb w.modulationType pb.modulationType = _
        rw [hacc.modulationType]
        rfl
      radioParams := radioParams_taken _ _
      lbtContext := lbt_taken pb.lbtContext native.lbtContext
      cwEnabled := rfl
      infinitePreamble := rfl
      cadContext := cad_taken _ hacc.cadExitMode hacc.cadSymbNb
      schedulerConfig := scheduler_taken _ _ }

/-- A request that is taken as sent. -/
theorem request_taken_sample :
    RequestTaken (sampleRequest 8)
      (racConvertContextFromPb zeroCasts (sampleRequest 8)
        (sampleContext 255)).2 :=
  (request_taken zeroCasts (sampleRequest 8) (sampleContext 255)).2 rfl

/-- **256 dBm AND SF 99** are accepted, as 0 dBm and SF7. -/
theorem odd_request_accepted :
    (racConvertContextFromPb zeroCasts oddRequest (sampleContext 255)).1 = true
      ∧ oddRequest.radioParams.txPowerInDbm.toNat = 256
      ∧ (racConvertContextFromPb zeroCasts oddRequest
          (sampleContext 255)).2.radioParams.txPowerInDbm.toNat = 0
      ∧ oddRequest.radioParams.sf = .other 99
      ∧ (racConvertContextFromPb zeroCasts oddRequest
          (sampleContext 255)).2.radioParams.sf = wideNative.sf.value .sf7 :=
  ⟨rfl, rfl, rfl, rfl, rfl⟩

/-- **WHAT A REFUSED REQUEST HAS CHANGED**: nothing when its modulation is
    refused; else the fields converted before the one that failed, and in no
    case the payload buffer, the data result or the scheduler configuration. -/
theorem refused_changes (casts : FloatCasts F) (pb : SmtcRacContextPb F)
    (native : SmtcRacContext w Callback)
    (hfalse : (racConvertContextFromPb casts pb native).1 = false) :
    ((racConvertContextFromPb casts pb native).2.dataBufferSetup
          = native.dataBufferSetup
        ∧ (racConvertContextFromPb casts pb native).2.dataResult
          = native.dataResult
        ∧ (racConvertContextFromPb casts pb native).2.schedulerConfig
          = native.schedulerConfig)
      ∧ (pb.modulationType ≠ .const .lora →
        (racConvertContextFromPb casts pb native).2 = native)
      ∧ (pb.modulationType = .const .lora →
        (racConvertContextFromPb casts pb native).2
          = headConverted pb native) := by
  rcases convert_cases casts pb native with
    ⟨hmod, h⟩ | ⟨hmod, -, h⟩ | ⟨-, h⟩
  · rw [h]
    exact ⟨⟨rfl, rfl, rfl⟩, fun _ => rfl, fun h' => absurd h' hmod⟩
  · rw [h]
    exact ⟨⟨rfl, rfl, rfl⟩, fun h' => absurd hmod h', fun _ => rfl⟩
  · rw [h] at hfalse
    exact nomatch hfalse

/-- A request refused for its CAD exit mode leaves the payload buffer alone. -/
theorem refused_keeps_payload :
    (racConvertContextFromPb zeroCasts badCadRequest
        (sampleContext 255)).2.dataBufferSetup
      = (sampleContext 255).dataBufferSetup :=
  (refused_changes zeroCasts badCadRequest (sampleContext 255) rfl).1.1

/-- **A REFUSED REQUEST CHANGES THE CONTEXT**: the bandwidth is already that of
    the request when the CAD exit mode is refused. -/
theorem refused_request_changes :
    (racConvertContextFromPb zeroCasts badCadRequest (sampleContext 255)).1
        = false
      ∧ (sampleContext 255).radioParams.bw = wideNative.bw.value .bw500Khz
      ∧ (racConvertContextFromPb zeroCasts badCadRequest
          (sampleContext 255)).2.radioParams.bw = wideNative.bw.value .bw125Khz
      ∧ (racConvertContextFromPb zeroCasts badCadRequest (sampleContext 255)).2
        ≠ sampleContext 255 := by
  refine ⟨rfl, rfl, rfl, ?_⟩
  intro h
  have hbw : wideNative.bw.value .bw125Khz = wideNative.bw.value .bw500Khz :=
    congrArg (fun n => n.radioParams.bw) h
  exact absurd hbw (by decide)

/-- The length of the `memcpy` into the TX buffer, 0 when it is not reached. -/
def memcpyLength (pb : TxPayloadPb) (native : SmtcRacDataBufferSetup) : Nat :=
  if pb.size > 0 then
    match native.txPayloadBuffer with
    | none => 0
    | some _ => if pb.size > 255 then 0 else pb.size
  else 0

/-- What the converter leaves in the memory from the TX buffer on. -/
theorem dataBufferSetup_memcpy (pb : TxPayloadPb)
    (native : SmtcRacDataBufferSetup) :
    (racConvertDataBufferSetupFromPb pb native).2.txPayloadBuffer
      = native.txPayloadBuffer.map
          (fun buffer => splice buffer 0 (memcpyLength pb native) pb.bytes) := by
  rw [racConvertDataBufferSetupFromPb, memcpyLength]
  by_cases hpos : pb.size > 0
  · cases hb : native.txPayloadBuffer with
    | none => simp [hpos, hb]
    | some buffer =>
        by_cases hbig : pb.size > 255
        · simp [hpos, hbig, hb]
        · simp [hpos, hbig]
  · simp [hpos]

/-- Once the request is accepted, what was copied fits the TX buffer, and a
    transmission sends no byte that was not in the request. -/
def TxPayloadFits (casts : FloatCasts F) (pb : SmtcRacContextPb F)
    (native : SmtcRacContext w Callback) : Prop :=
  (racConvertContextFromPb casts pb native).1 = true →
    memcpyLength pb.txPayloadBuffer native.dataBufferSetup
        ≤ native.dataBufferSetup.sizeOfTxPayloadBuffer
      ∧ ((racConvertContextFromPb casts pb native).2.radioParams.isTx = true →
        (racConvertContextFromPb casts pb native).2.radioParams.txSize.toNat
          ≤ pb.txPayloadBuffer.size)

/-- **WHEN THE PAYLOAD FITS**: when the request is refused, or its payload is no
    longer than the capacity and, to be sent, no shorter than `tx_size`. -/
theorem txPayloadFits_iff (casts : FloatCasts F) (pb : SmtcRacContextPb F)
    (native : SmtcRacContext w Callback) :
    TxPayloadFits casts pb native
      ↔ (Accepts pb native →
        pb.txPayloadBuffer.size ≤ native.dataBufferSetup.sizeOfTxPayloadBuffer
          ∧ (pb.radioParams.isTx = true →
            pb.radioParams.txSize.toNat % 2 ^ w.width .txSize
              ≤ pb.txPayloadBuffer.size)) := by
  rw [TxPayloadFits, accepted_iff]
  refine forall_congr' fun hacc => ?_
  have hresult : (racConvertContextFromPb casts pb native).2.radioParams
      = racConvertRadioParamsFromPb pb.radioParams native.radioParams := by
    rcases convert_cases casts pb native with
      ⟨hmod, -⟩ | ⟨-, hno, -⟩ | ⟨-, h⟩
    · exact absurd hacc.modulationType hmod
    · exact absurd hacc hno
    · rw [h]
      rfl
  have hcopied : memcpyLength pb.txPayloadBuffer native.dataBufferSetup
      = pb.txPayloadBuffer.size := by
    rw [memcpyLength]
    by_cases hpos : pb.txPayloadBuffer.size > 0
    · obtain ⟨hsome, hle⟩ := hacc.txPayload hpos
      obtain ⟨buffer, hb⟩ := Option.isSome_iff_exists.mp hsome
      rw [if_pos hpos, hb]
      exact if_neg (Nat.not_lt.mpr hle)
    · rw [if_neg hpos]
      omega
  have hsize : (racConvertRadioParamsFromPb pb.radioParams
      native.radioParams).txSize.toNat
        = pb.radioParams.txSize.toNat % 2 ^ w.width .txSize :=
    (radioParams_taken pb.radioParams native.radioParams).txSize
  rw [hresult, hcopied, hsize]
  rfl

/-- **EIGHT BYTES INTO A BUFFER OF FOUR** are copied, and a transmission of
    eight bytes with a payload of none sends what the buffer held. -/
theorem payload_overruns :
    ¬ TxPayloadFits zeroCasts (sampleRequest 8) (sampleContext 4)
      ∧ ¬ TxPayloadFits zeroCasts (sampleRequest 0) (sampleContext 255) := by
  constructor
  · intro h
    exact absurd (h rfl).1 (by decide)
  · intro h
    exact absurd ((h rfl).2 rfl) (by decide)

end RacContext
