import UspZephyr.RacEnumProofs

/-! # Round trips of the RAC context converters

    `rac_context_converter.c` writes every field of a radio transaction twice,
    to protobuf and back.  The native structures are declared outside this
    repository.  Where neither a cast nor a comment of the converter gives the
    width of an unsigned field it is a parameter, of at most the 32 bits of its
    protobuf field, and so are the values of the enumerations.

    All fields come back but one, as long as the converter names the values of the
    enumerations: `symb_nb_timeout` is 16 bits wide since it was made a `uint16_t`,
    and is still cast to `uint8_t` on the way back (`lossless_iff`). -/

namespace RacConverter

open FieldCodec RacEnum

/-- The native integer fields whose width the converter does not show. -/
inductive NativeField where
  | frequencyInHz | preambleLenInSymb | rxTimeoutMs | maxRxSize | txSize
  | requestAddress | delayIndicator | responseSymbolsCount
  | listenDurationMs | bandwidthHz
  | cadTimeoutInMs | rfFreqInHz | cadInvertIqIsOn
  | startTimeMs | durationTimeMs
  | rxSize | rssiResult | snrResult | radioEndTimestampMs | radioStartTimestampMs
  deriving DecidableEq, Repr

/-- What the headers outside this repository declare: the widths of those fields,
    and the values of the constants that the converter names. -/
structure NativeTypes where
  width : NativeField → Nat
  width_le : ∀ f, width f ≤ 32
  sf : NativeEnum RalLoraSf
  bw : NativeEnum RalLoraBw
  cr : NativeEnum RalLoraCr
  headerType : NativeEnum RalLoraPktLenModes
  syncWord : NativeEnum SmtcRacLoraSyncword
  scheduling : NativeEnum SmtcRacScheduling
  modulationType : NativeEnum SmtcRacModulationType
  cadExitMode : NativeEnum RalLoraCadExitModes
  cadSymbNb : NativeEnum RalLoraCadSymbs

/-! ## The two forms of each structure -/

/-- `smtc_rac_rttof_params_t`; a field of an enumeration type is an integer. -/
structure SmtcRacRttofParams (w : NativeTypes) where
  requestAddress : BitVec (w.width .requestAddress)
  delayIndicator : BitVec (w.width .delayIndicator)
  responseSymbolsCount : BitVec (w.width .responseSymbolsCount)
  bwRanging : Int

/-- `rttof_params_pb_t`. -/
structure RttofParamsPb where
  requestAddress : BitVec 32
  delayIndicator : BitVec 32
  responseSymbolsCount : BitVec 32
  bwRanging : CEnum LoraBandwidthPb

/-- `smtc_rac_radio_lora_params_t`. -/
structure SmtcRacRadioLoraParams (w : NativeTypes) where
  isTx : Bool
  isRangingExchange : Bool
  rttof : SmtcRacRttofParams w
  frequencyInHz : BitVec (w.width .frequencyInHz)
  txPowerInDbm : BitVec 8
  sf : Int
  bw : Int
  cr : Int
  preambleLenInSymb : BitVec (w.width .preambleLenInSymb)
  headerType : Int
  invertIqIsOn : BitVec 8
  crcIsOn : BitVec 8
  syncWord : Int
  rxTimeoutMs : BitVec (w.width .rxTimeoutMs)
  symbNbTimeout : BitVec 16
  maxRxSize : BitVec (w.width .maxRxSize)
  txSize : BitVec (w.width .txSize)

/-- `rac_radio_lora_params_pb_t`. -/
structure RacRadioLoraParamsPb where
  isTx : Bool
  isRangingExchange : Bool
  hasRttof : Bool
  rttof : RttofParamsPb
  frequencyInHz : BitVec 32
  txPowerInDbm : BitVec 32
  sf : CEnum LoraSpreadingFactorPb
  bw : CEnum LoraBandwidthPb
  cr : CEnum LoraCodingRatePb
  preambleLenInSymb : BitVec 32
  headerType : CEnum LoraPacketLengthModePb
  invertIqIsOn : Bool
  crcIsOn : Bool
  syncWord : CEnum LoraSyncwordPb
  rxTimeoutMs : BitVec 32
  symbNbTimeout : BitVec 32
  maxRxSize : BitVec 32
  txSize : BitVec 32

/-- `smtc_rac_scheduler_config_t`; the callbacks are not serialised. -/
structure SmtcRacSchedulerConfig (w : NativeTypes) (Callback : Type) where
  startTimeMs : BitVec (w.width .startTimeMs)
  scheduling : Int
  durationTimeMs : BitVec (w.width .durationTimeMs)
  callbackPreRadioTransaction : Callback
  callbackPostRadioTransaction : Callback

/-- `rac_scheduler_config_pb_t`. -/
structure RacSchedulerConfigPb where
  startTimeMs : BitVec 32
  scheduling : CEnum SmtcRacSchedulingPb
  durationTimeMs : BitVec 32

/-- `smtc_rac_lbt_context_t`. -/
structure SmtcRacLbtContext (w : NativeTypes) where
  lbtEnabled : Bool
  listenDurationMs : BitVec (w.width .listenDurationMs)
  thresholdDbm : BitVec 16
  bandwidthHz : BitVec (w.width .bandwidthHz)
  rssiInstDbm : BitVec 16
  channelBusy : Bool

/-- `smtc_rac_lbt_context_pb_t`. -/
structure SmtcRacLbtContextPb where
  lbtEnabled : Bool
  listenDurationMs : BitVec 32
  thresholdDbm : BitVec 32
  bandwidthHz : BitVec 32
  rssiInstDbm : BitVec 32
  channelBusy : Bool

/-- `smtc_rac_cw_context_t`. -/
structure SmtcRacCwContext where
  cwEnabled : Bool
  infinitePreamble : Bool

/-- `smtc_rac_cw_context_pb_t`. -/
structure SmtcRacCwContextPb where
  cwEnabled : Bool
  infinitePreamble : Bool

/-- `smtc_rac_cad_radio_params_t`. -/
structure SmtcRacCadRadioParams (w : NativeTypes) where
  cadTimeoutInMs : BitVec (w.width .cadTimeoutInMs)
  cadExitMode : Int
  cadSymbNb : Int
  sf : Int
  bw : Int
  rfFreqInHz : BitVec (w.width .rfFreqInHz)
  invertIqIsOn : BitVec (w.width .cadInvertIqIsOn)

/-- `smtc_rac_cad_context_pb_t`. -/
structure SmtcRacCadContextPb where
  cadEnabled : Bool
  cadSymbNb : CEnum RalLoraCadSymbsPb
  cadExitMode : CEnum RalLoraCadExitModesPb
  cadTimeoutInMs : BitVec 32
  sf : CEnum LoraSpreadingFactorPb
  bw : CEnum LoraBandwidthPb
  rfFreqInHz : BitVec 32
  invertIqIsOn : Bool

variable {w : NativeTypes} {Callback : Type}

/-! ## To protobuf -/

/-- `rac_convert_rttof_to_pb`. -/
def racConvertRttofToPb (native : SmtcRacRttofParams w) : RttofParamsPb where
  requestAddress := native.requestAddress.setWidth 32
  delayIndicator := native.delayIndicator.setWidth 32
  responseSymbolsCount := native.responseSymbolsCount.setWidth 32
  bwRanging := convertNativeBwToPb w.bw native.bwRanging

/-- `rac_convert_radio_params_to_pb`. -/
def racConvertRadioParamsToPb (native : SmtcRacRadioLoraParams w) :
    RacRadioLoraParamsPb where
  hasRttof := true
  isTx := native.isTx
  isRangingExchange := native.isRangingExchange
  frequencyInHz := native.frequencyInHz.setWidth 32
  txPowerInDbm := native.txPowerInDbm.setWidth 32
  preambleLenInSymb := native.preambleLenInSymb.setWidth 32
  invertIqIsOn := toBool native.invertIqIsOn
  crcIsOn := toBool native.crcIsOn
  rxTimeoutMs := native.rxTimeoutMs.setWidth 32
  symbNbTimeout := native.symbNbTimeout.setWidth 32
  maxRxSize := native.maxRxSize.setWidth 32
  txSize := native.txSize.setWidth 32
  rttof := racConvertRttofToPb native.rttof
  sf := convertNativeSfToPb w.sf native.sf
  bw := convertNativeBwToPb w.bw native.bw
  cr := convertNativeCrToPb w.cr native.cr
  headerType := convertNativeHeaderTypeToPb w.headerType native.headerType
  syncWord := convertNativeSyncWordToPb w.syncWord native.syncWord

/-- `rac_convert_scheduler_config_to_pb`. -/
def racConvertSchedulerConfigToPb (native : SmtcRacSchedulerConfig w Callback) :
    RacSchedulerConfigPb where
  startTimeMs := native.startTimeMs.setWidth 32
  scheduling := racConvertSchedulingToPb w.scheduling native.scheduling
  durationTimeMs := native.durationTimeMs.setWidth 32

/-- `rac_convert_lbt_context_to_pb`. -/
def racConvertLbtContextToPb (native : SmtcRacLbtContext w) :
    SmtcRacLbtContextPb where
  lbtEnabled := native.lbtEnabled
  listenDurationMs := native.listenDurationMs.setWidth 32
  thresholdDbm := native.thresholdDbm.signExtend 32
  bandwidthHz := native.bandwidthHz.setWidth 32
  rssiInstDbm := native.rssiInstDbm.signExtend 32
  channelBusy := native.channelBusy

/-- `rac_convert_cw_context_to_pb`. -/
def racConvertCwContextToPb (native : SmtcRacCwContext) :
    SmtcRacCwContextPb where
  cwEnabled := native.cwEnabled
  infinitePreamble := native.infinitePreamble

/-- `rac_convert_cad_context_to_pb`: the structure as the call leaves it, and
    whether it returned true.  `cad_enabled` is not written. -/
def racConvertCadContextToPb (native : SmtcRacCadRadioParams w)
    (pb : SmtcRacCadContextPb) : Bool × SmtcRacCadContextPb :=
  let pb := { pb with cadTimeoutInMs := native.cadTimeoutInMs.setWidth 32 }
  match CEnum.switch? cadExitModeToPbTable
      (w.cadExitMode.read native.cadExitMode) with
  | none => (false, pb)
  | some exitMode =>
      let pb := { pb with cadExitMode := exitMode }
      match CEnum.switch? cadSymbNbToPbTable
          (w.cadSymbNb.read native.cadSymbNb) with
      | none => (false, pb)
      | some symbNb =>
          (true,
            { pb with
              cadSymbNb := symbNb
              cadTimeoutInMs := native.cadTimeoutInMs.setWidth 32
              sf := convertNativeSfToPb w.sf native.sf
              bw := convertNativeBwToPb w.bw native.bw
              rfFreqInHz := native.rfFreqInHz.setWidth 32
              invertIqIsOn := toBool native.invertIqIsOn })

/-! ## From protobuf -/

/-- `rac_convert_rttof_from_pb`. -/
def racConvertRttofFromPb (pb : RttofParamsPb) (native : SmtcRacRttofParams w) :
    SmtcRacRttofParams w :=
  { native with
    requestAddress := pb.requestAddress.setWidth _
    delayIndicator := pb.delayIndicator.setWidth _
    responseSymbolsCount := pb.responseSymbolsCount.setWidth _
    bwRanging := convertPbBwToNative w.bw pb.bwRanging }

/-- `rac_convert_radio_params_from_pb`. -/
def racConvertRadioParamsFromPb (pb : RacRadioLoraParamsPb)
    (native : SmtcRacRadioLoraParams w) : SmtcRacRadioLoraParams w :=
  { native with
    isTx := pb.isTx
    isRangingExchange := pb.isRangingExchange
    frequencyInHz := pb.frequencyInHz.setWidth _
    txPowerInDbm := pb.txPowerInDbm.setWidth 8
    preambleLenInSymb := pb.preambleLenInSymb.setWidth _
    invertIqIsOn := ofBool pb.invertIqIsOn
    crcIsOn := ofBool pb.crcIsOn
    rxTimeoutMs := pb.rxTimeoutMs.setWidth _
    -- ( uint8_t ) pb_params->symb_nb_timeout, into a uint16_t
    symbNbTimeout := (pb.symbNbTimeout.setWidth 8).setWidth 16
    maxRxSize := pb.maxRxSize.setWidth _
    txSize := pb.txSize.setWidth _
    rttof := racConvertRttofFromPb pb.rttof native.rttof
    sf := convertPbSfToNative w.sf pb.sf
    bw := convertPbBwToNative w.bw pb.bw
    cr := convertPbCrToNative w.cr pb.cr
    headerType := convertPbHeaderTypeToNative w.headerType pb.headerType
    syncWord := convertPbSyncWordToNative w.syncWord pb.syncWord }

/-- `rac_convert_scheduler_config_from_pb`. -/
def racConvertSchedulerConfigFromPb (pb : RacSchedulerConfigPb)
    (native : SmtcRacSchedulerConfig w Callback) :
    SmtcRacSchedulerConfig w Callback :=
  { native with
    startTimeMs := pb.startTimeMs.setWidth _
    scheduling := racConvertSchedulingFromPb w.scheduling pb.scheduling
    durationTimeMs := pb.durationTimeMs.setWidth _ }

/-- `rac_convert_lbt_context_from_pb`. -/
def racConvertLbtContextFromPb (pb : SmtcRacLbtContextPb)
    (native : SmtcRacLbtContext w) : SmtcRacLbtContext w :=
  { native with
    lbtEnabled := pb.lbtEnabled
    listenDurationMs := pb.listenDurationMs.setWidth _
    thresholdDbm := pb.thresholdDbm.setWidth 16
    bandwidthHz := pb.bandwidthHz.setWidth _
    rssiInstDbm := pb.rssiInstDbm.setWidth 16
    channelBusy := pb.channelBusy }

/-- `rac_convert_cw_context_from_pb`. -/
def racConvertCwContextFromPb (pb : SmtcRacCwContextPb)
    (native : SmtcRacCwContext) : SmtcRacCwContext :=
  { native with
    cwEnabled := pb.cwEnabled
    infinitePreamble := pb.infinitePreamble }

/-- `rac_convert_cad_context_from_pb`: whether it returned true, and the
    structure as the call leaves it. -/
def racConvertCadContextFromPb (pb : SmtcRacCadContextPb)
    (native : SmtcRacCadRadioParams w) : Bool × SmtcRacCadRadioParams w :=
  let native := { native with cadTimeoutInMs := pb.cadTimeoutInMs.setWidth _ }
  match CEnum.switch? cadExitModeFromPbTable pb.cadExitMode with
  | none => (false, native)
  | some exitMode =>
      let native := { native with cadExitMode := w.cadExitMode.write exitMode }
      match CEnum.switch? cadSymbNbFromPbTable pb.cadSymbNb with
      | none => (false, native)
      | some symbNb =>
          (true,
            { native with
              cadSymbNb := w.cadSymbNb.write symbNb
              cadTimeoutInMs := pb.cadTimeoutInMs.setWidth _
              sf := convertPbSfToNative w.sf pb.sf
              bw := convertPbBwToNative w.bw pb.bw
              rfFreqInHz := pb.rfFreqInHz.setWidth _
              invertIqIsOn := ofBool pb.invertIqIsOn })

/-! ## What a round trip needs -/

/-- The values of the enumeration fields are ones that the converter names. -/
def SmtcRacRttofParams.Named (p : SmtcRacRttofParams w) : Prop :=
  w.bw.Named p.bwRanging

structure SmtcRacRadioLoraParams.Named (p : SmtcRacRadioLoraParams w) : Prop where
  rttof : p.rttof.Named
  sf : w.sf.Named p.sf
  bw : w.bw.Named p.bw
  cr : w.cr.Named p.cr
  headerType : w.headerType.Named p.headerType
  syncWord : w.syncWord.Named p.syncWord

structure SmtcRacCadRadioParams.Named (p : SmtcRacCadRadioParams w) : Prop where
  cadExitMode : w.cadExitMode.Named p.cadExitMode
  cadSymbNb : w.cadSymbNb.Named p.cadSymbNb
  sf : w.sf.Named p.sf
  bw : w.bw.Named p.bw

/-- The flags are 0 or 1. -/
structure SmtcRacRadioLoraParams.Flags (p : SmtcRacRadioLoraParams w) : Prop where
  invertIqIsOn : p.invertIqIsOn = 0 ∨ p.invertIqIsOn = 1
  crcIsOn : p.crcIsOn = 0 ∨ p.crcIsOn = 1

def SmtcRacCadRadioParams.Flags (p : SmtcRacCadRadioParams w) : Prop :=
  p.invertIqIsOn = 0 ∨ p.invertIqIsOn = 1

/-! ## The round trips -/

/-- Ranging parameters come back with the bandwidth that the tables make of
    theirs. -/
theorem rttof_roundTrip (p dest : SmtcRacRttofParams w) :
    racConvertRttofFromPb (racConvertRttofToPb p) dest
      = { p with
          bwRanging :=
            convertPbBwToNative w.bw (convertNativeBwToPb w.bw p.bwRanging) } := by
  simp only [racConvertRttofFromPb, racConvertRttofToPb,
    narrow_widen (w.width_le _)]

/-- Radio parameters come back with `symb_nb_timeout` cut to eight bits, and the
    enumerations as the tables make them. -/
theorem radioParams_roundTrip {p : SmtcRacRadioLoraParams w} (hp : p.Flags)
    (dest : SmtcRacRadioLoraParams w) :
    racConvertRadioParamsFromPb (racConvertRadioParamsToPb p) dest
      = { p with
          rttof := { p.rttof with
            bwRanging := convertPbBwToNative w.bw
              (convertNativeBwToPb w.bw p.rttof.bwRanging) }
          sf := convertPbSfToNative w.sf (convertNativeSfToPb w.sf p.sf)
          bw := convertPbBwToNative w.bw (convertNativeBwToPb w.bw p.bw)
          cr := convertPbCrToNative w.cr (convertNativeCrToPb w.cr p.cr)
          headerType := convertPbHeaderTypeToNative w.headerType
            (convertNativeHeaderTypeToPb w.headerType p.headerType)
          syncWord := convertPbSyncWordToNative w.syncWord
            (convertNativeSyncWordToPb w.syncWord p.syncWord)
          symbNbTimeout := (p.symbNbTimeout.setWidth 8).setWidth 16 } := by
  simp only [racConvertRadioParamsFromPb, racConvertRadioParamsToPb,
    narrow_widen (w.width_le _), narrow_widen (by decide : 8 ≤ 32),
    rttof_roundTrip, ofBool_toBool hp.invertIqIsOn, ofBool_toBool hp.crcIsOn,
    BitVec.setWidth_setWidth_of_le p.symbNbTimeout (by decide : 8 ≤ 32)]

/-- With values that are named, only `symb_nb_timeout` changes. -/
theorem radioParams_named {p : SmtcRacRadioLoraParams w} (hflags : p.Flags)
    (hp : p.Named) (dest : SmtcRacRadioLoraParams w) :
    racConvertRadioParamsFromPb (racConvertRadioParamsToPb p) dest
      = { p with symbNbTimeout := (p.symbNbTimeout.setWidth 8).setWidth 16 } := by
  rw [radioParams_roundTrip hflags]
  simp only [convertPbSfToNative, convertNativeSfToPb, convertPbBwToNative,
    convertNativeBwToPb, convertPbCrToNative, convertNativeCrToPb,
    convertPbHeaderTypeToNative, convertNativeHeaderTypeToPb,
    convertPbSyncWordToNative, convertNativeSyncWordToPb,
    (w.sf.switch_back_iff sfTable_back _ _).mpr hp.sf,
    (w.bw.switch_back_iff bwTable_back _ _).mpr hp.bw,
    (w.bw.switch_back_iff bwTable_back _ _).mpr hp.rttof,
    (w.cr.switch_back_iff crTable_back _ _).mpr hp.cr,
    (w.headerType.switch_back_iff headerTypeTable_back _ _).mpr hp.headerType,
    (w.syncWord.switch_back_iff syncWordTable_back _ _).mpr hp.syncWord]

/-- A scheduler configuration comes back, beside the destination's callbacks. -/
theorem schedulerConfig_roundTrip (p dest : SmtcRacSchedulerConfig w Callback) :
    racConvertSchedulerConfigFromPb (racConvertSchedulerConfigToPb p) dest
      = { p with
          scheduling := racConvertSchedulingFromPb w.scheduling
            (racConvertSchedulingToPb w.scheduling p.scheduling)
          callbackPreRadioTransaction := dest.callbackPreRadioTransaction
          callbackPostRadioTransaction := dest.callbackPostRadioTransaction } := by
  simp only [racConvertSchedulerConfigFromPb, racConvertSchedulerConfigToPb,
    narrow_widen (w.width_le _)]

theorem schedulerConfig_named {p : SmtcRacSchedulerConfig w Callback}
    (hp : w.scheduling.Named p.scheduling)
    (dest : SmtcRacSchedulerConfig w Callback) :
    racConvertSchedulerConfigFromPb (racConvertSchedulerConfigToPb p) dest
      = { p with
          callbackPreRadioTransaction := dest.callbackPreRadioTransaction
          callbackPostRadioTransaction := dest.callbackPostRadioTransaction } := by
  rw [schedulerConfig_roundTrip, racConvertSchedulingFromPb,
    racConvertSchedulingToPb,
    (w.scheduling.switch_back_iff schedulingTable_back _ _).mpr hp]

theorem lbtContext_roundTrip (p dest : SmtcRacLbtContext w) :
    racConvertLbtContextFromPb (racConvertLbtContextToPb p) dest = p := by
  simp only [racConvertLbtContextFromPb, racConvertLbtContextToPb,
    narrow_widen (w.width_le _), narrow_signExtend (by decide : 16 ≤ 32)]

theorem cwContext_roundTrip (p dest : SmtcRacCwContext) :
    racConvertCwContextFromPb (racConvertCwContextToPb p) dest = p := rfl

/-- CAD parameters are accepted with an exit mode and a symbol number that are
    named. -/
theorem cadContextToPb_accepts_iff (p : SmtcRacCadRadioParams w)
    (pb : SmtcRacCadContextPb) :
    (racConvertCadContextToPb p pb).1 = true
      ↔ w.cadExitMode.Named p.cadExitMode ∧ w.cadSymbNb.Named p.cadSymbNb := by
  have hmode : (CEnum.switch? cadExitModeToPbTable
      (w.cadExitMode.read p.cadExitMode)).isSome = true ↔ _ := CEnum.switch?_isSome
  have hsymb : (CEnum.switch? cadSymbNbToPbTable
      (w.cadSymbNb.read p.cadSymbNb)).isSome = true ↔ _ := CEnum.switch?_isSome
  rw [← w.cadExitMode.read_isConst, ← w.cadSymbNb.read_isConst, ← hmode, ← hsymb,
    racConvertCadContextToPb]
  cases CEnum.switch? cadExitModeToPbTable (w.cadExitMode.read p.cadExitMode) with
  | none => simp
  | some m =>
      cases CEnum.switch? cadSymbNbToPbTable (w.cadSymbNb.read p.cadSymbNb) with
      | none => simp
      | some s => simp

/-- Then they are accepted in both directions, and come back with the spreading
    factor and the bandwidth that the tables make of theirs. -/
theorem cadContext_roundTrip {p : SmtcRacCadRadioParams w} (hflags : p.Flags)
    (hmode : w.cadExitMode.Named p.cadExitMode)
    (hsymb : w.cadSymbNb.Named p.cadSymbNb) (pb : SmtcRacCadContextPb)
    (dest : SmtcRacCadRadioParams w) :
    racConvertCadContextFromPb (racConvertCadContextToPb p pb).2 dest
      = (true, { p with
          sf := convertPbSfToNative w.sf (convertNativeSfToPb w.sf p.sf)
          bw := convertPbBwToNative w.bw (convertNativeBwToPb w.bw p.bw) }) := by
  obtain ⟨m, hm, hm'⟩ := CEnum.switch?_switch? cadExitModeTable_back
    (w.cadExitMode.read_isConst.mpr hmode)
  obtain ⟨s, hs, hs'⟩ := CEnum.switch?_switch? cadSymbNbTable_back
    (w.cadSymbNb.read_isConst.mpr hsymb)
  simp only [racConvertCadContextToPb, hm, hs, racConvertCadContextFromPb, hm',
    hs', NativeEnum.write_read, narrow_widen (w.width_le _),
    ofBool_toBool hflags]

theorem cadContext_named {p : SmtcRacCadRadioParams w} (hflags : p.Flags)
    (hp : p.Named) (pb : SmtcRacCadContextPb) (dest : SmtcRacCadRadioParams w) :
    (racConvertCadContextToPb p pb).1 = true
      ∧ racConvertCadContextFromPb (racConvertCadContextToPb p pb).2 dest
        = (true, p) := by
  refine ⟨(cadContextToPb_accepts_iff p pb).mpr ⟨hp.cadExitMode, hp.cadSymbNb⟩, ?_⟩
  rw [cadContext_roundTrip hflags hp.cadExitMode hp.cadSymbNb]
  simp only [convertPbSfToNative, convertNativeSfToPb, convertPbBwToNative,
    convertNativeBwToPb, (w.sf.switch_back_iff sfTable_back _ _).mpr hp.sf,
    (w.bw.switch_back_iff bwTable_back _ _).mpr hp.bw]

/-! ## Which parameters lose nothing -/

/-- One of each structure a context is made of. -/
structure RacParameters (w : NativeTypes) (Callback : Type) where
  radioParams : SmtcRacRadioLoraParams w
  schedulerConfig : SmtcRacSchedulerConfig w Callback
  lbtContext : SmtcRacLbtContext w
  cwContext : SmtcRacCwContext
  cadContext : SmtcRacCadRadioParams w

/-- All values of enumerations are ones that the converter names. -/
structure RacParameters.Named (p : RacParameters w Callback) : Prop where
  radioParams : p.radioParams.Named
  scheduling : w.scheduling.Named p.schedulerConfig.scheduling
  cadContext : p.cadContext.Named

/-- All flags are 0 or 1. -/
structure RacParameters.Flags (p : RacParameters w Callback) : Prop where
  radioParams : p.radioParams.Flags
  cadContext : p.cadContext.Flags

/-- To protobuf and back, onto any destination, every serialised field is what
    it was, and the callbacks are those of the destination. -/
structure RacParameters.Lossless (p : RacParameters w Callback) : Prop where
  radioParams : ∀ dest, racConvertRadioParamsFromPb
    (racConvertRadioParamsToPb p.radioParams) dest = p.radioParams
  schedulerConfig : ∀ dest : SmtcRacSchedulerConfig w Callback,
    racConvertSchedulerConfigFromPb
      (racConvertSchedulerConfigToPb p.schedulerConfig) dest
    = { p.schedulerConfig with
        callbackPreRadioTransaction := dest.callbackPreRadioTransaction
        callbackPostRadioTransaction := dest.callbackPostRadioTransaction }
  lbtContext : ∀ dest, racConvertLbtContextFromPb
    (racConvertLbtContextToPb p.lbtContext) dest = p.lbtContext
  cwContext : ∀ dest, racConvertCwContextFromPb
    (racConvertCwContextToPb p.cwContext) dest = p.cwContext
  cadContext : ∀ pb dest, (racConvertCadContextToPb p.cadContext pb).1 = true
    ∧ racConvertCadContextFromPb (racConvertCadContextToPb p.cadContext pb).2
        dest = (true, p.cadContext)

/-- Sixteen bits survive a cast to eight when the upper eight are clear. -/
theorem cut_eq_iff (x : BitVec 16) :
    (x.setWidth 8).setWidth 16 = x ↔ x.toNat < 256 := by
  rw [BitVec.toNat_eq, BitVec.toNat_setWidth, BitVec.toNat_setWidth]
  have := x.isLt
  omega

/-- Radio parameters that come back are named, and `symb_nb_timeout` is short. -/
theorem radioParams_of_back {p : SmtcRacRadioLoraParams w} (hflags : p.Flags)
    (hback : racConvertRadioParamsFromPb (racConvertRadioParamsToPb p) p = p) :
    p.Named ∧ p.symbNbTimeout.toNat < 256 := by
  rw [radioParams_roundTrip hflags] at hback
  have hfield {α : Type} (f : SmtcRacRadioLoraParams w → α) := congrArg f hback
  refine ⟨?_, (cut_eq_iff _).mp (hfield (·.symbNbTimeout))⟩
  exact {
    rttof := (w.bw.switch_back_iff bwTable_back _ _).mp
      (hfield (·.rttof.bwRanging))
    sf := (w.sf.switch_back_iff sfTable_back _ _).mp (hfield (·.sf))
    bw := (w.bw.switch_back_iff bwTable_back _ _).mp (hfield (·.bw))
    cr := (w.cr.switch_back_iff crTable_back _ _).mp (hfield (·.cr))
    headerType := (w.headerType.switch_back_iff headerTypeTable_back _ _).mp
      (hfield (·.headerType))
    syncWord := (w.syncWord.switch_back_iff syncWordTable_back _ _).mp
      (hfield (·.syncWord)) }

/-- And so are CAD parameters that come back. -/
theorem cadContext_of_back {p : SmtcRacCadRadioParams w} (hflags : p.Flags)
    {pb : SmtcRacCadContextPb} (haccepts : (racConvertCadContextToPb p pb).1 = true)
    (hback : racConvertCadContextFromPb (racConvertCadContextToPb p pb).2 p
      = (true, p)) : p.Named := by
  obtain ⟨hmode, hsymb⟩ := (cadContextToPb_accepts_iff p pb).mp haccepts
  rw [cadContext_roundTrip hflags hmode hsymb] at hback
  have hcad := congrArg Prod.snd hback
  exact {
    cadExitMode := hmode
    cadSymbNb := hsymb
    sf := (w.sf.switch_back_iff sfTable_back _ _).mp (congrArg (·.sf) hcad)
    bw := (w.bw.switch_back_iff bwTable_back _ _).mp (congrArg (·.bw) hcad) }

/-- **WHICH PARAMETERS LOSE NOTHING**: exactly those with values of enumerations
    that the converter names and a `symb_nb_timeout` below 256. -/
theorem lossless_iff (p : RacParameters w Callback) (hflags : p.Flags) :
    p.Lossless ↔ p.Named ∧ p.radioParams.symbNbTimeout.toNat < 256 := by
  constructor
  · intro h
    obtain ⟨hradio, hsymb⟩ :=
      radioParams_of_back hflags.radioParams (h.radioParams p.radioParams)
    refine ⟨⟨hradio, ?_, ?_⟩, hsymb⟩
    · have hback := h.schedulerConfig p.schedulerConfig
      rw [schedulerConfig_roundTrip] at hback
      exact (w.scheduling.switch_back_iff schedulingTable_back _ _).mp
        (congrArg (·.scheduling) hback)
    · obtain ⟨haccepts, hback⟩ := h.cadContext
        ⟨false, .other 0, .other 0, 0, .other 0, .other 0, 0, false⟩ p.cadContext
      exact cadContext_of_back hflags.cadContext haccepts hback
  · rintro ⟨hnamed, hsymb⟩
    exact {
      radioParams := by
        intro dest
        rw [radioParams_named hflags.radioParams hnamed.radioParams,
          (cut_eq_iff _).mpr hsymb]
      schedulerConfig := schedulerConfig_named hnamed.scheduling
      lbtContext := lbtContext_roundTrip p.lbtContext
      cwContext := cwContext_roundTrip p.cwContext
      cadContext := cadContext_named hflags.cadContext hnamed.cadContext }

/-- Every field of 32 bits, and the constants counted from 0. -/
def wideNative : NativeTypes where
  width := fun _ => 32
  width_le := fun _ => Nat.le_refl 32
  sf := .counted _
  bw := .counted _
  cr := .counted _
  headerType := .counted _
  syncWord := .counted _
  scheduling := .counted _
  modulationType := .counted _
  cadExitMode := .counted _
  cadSymbNb := .counted _

/-- A ranging reply on 868.1 MHz with a timeout of `symbNbTimeout` symbols. -/
def sampleParameters (symbNbTimeout : BitVec 16) :
    RacParameters wideNative Unit where
  radioParams :=
    { isTx := false
      isRangingExchange := true
      rttof :=
        ⟨0x32101222#32, 20000#32, 15#32, wideNative.bw.value .bw500Khz⟩
      frequencyInHz := 868100000#32
      txPowerInDbm := 14#8
      sf := wideNative.sf.value .sf9
      bw := wideNative.bw.value .bw500Khz
      cr := wideNative.cr.value .cr45
      preambleLenInSymb := 12#32
      headerType := wideNative.headerType.value .explicit
      invertIqIsOn := 1#8
      crcIsOn := 0#8
      syncWord := wideNative.syncWord.value .publicNetwork
      rxTimeoutMs := 3000#32
      symbNbTimeout := symbNbTimeout
      maxRxSize := 255#32
      txSize := 0#32 }
  schedulerConfig :=
    ⟨1000#32, wideNative.scheduling.value .asapTransaction, 500#32, (), ()⟩
  lbtContext := ⟨true, 5#32, -80#16, 125000#32, -120#16, false⟩
  cwContext := ⟨false, false⟩
  cadContext :=
    ⟨50#32, wideNative.cadExitMode.value .cadRx,
      wideNative.cadSymbNb.value .cad04Symb, wideNative.sf.value .sf9,
      wideNative.bw.value .bw500Khz, 868100000#32, 1#32⟩

theorem sampleParameters_flags (n : BitVec 16) : (sampleParameters n).Flags where
  radioParams := ⟨Or.inr rfl, Or.inl rfl⟩
  cadContext := Or.inr rfl

theorem sampleParameters_named (n : BitVec 16) : (sampleParameters n).Named where
  radioParams := ⟨⟨_, rfl⟩, ⟨_, rfl⟩, ⟨_, rfl⟩, ⟨_, rfl⟩, ⟨_, rfl⟩, ⟨_, rfl⟩⟩
  scheduling := ⟨_, rfl⟩
  cadContext := ⟨⟨_, rfl⟩, ⟨_, rfl⟩, ⟨_, rfl⟩, ⟨_, rfl⟩⟩

/-- A timeout of 255 symbols comes back. -/
theorem lossless_255 : (sampleParameters 255).Lossless :=
  (lossless_iff (sampleParameters 255) (sampleParameters_flags 255)).mpr
    ⟨sampleParameters_named 255, by decide⟩

/-- **256 SYMBOLS COME BACK AS 0.** -/
theorem symb_nb_timeout_256_lost :
    (sampleParameters 256).Flags ∧ (sampleParameters 256).Named
      ∧ (racConvertRadioParamsFromPb (racConvertRadioParamsToPb
          (sampleParameters 256).radioParams)
          (sampleParameters 0).radioParams).symbNbTimeout = 0
      ∧ ¬ (sampleParameters 256).Lossless := by
  refine ⟨sampleParameters_flags 256, sampleParameters_named 256, rfl, ?_⟩
  intro h
  have hback := congrArg SmtcRacRadioLoraParams.symbNbTimeout
    (h.radioParams (sampleParameters 0).radioParams)
  exact absurd hback (by decide)

/-- A sixteenth bandwidth comes back as 125 kHz. -/
example : convertPbBwToNative wideNative.bw (convertNativeBwToPb wideNative.bw 15)
    = wideNative.bw.value .bw125Khz := by decide

end RacConverter
