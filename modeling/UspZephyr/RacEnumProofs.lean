import UspZephyr.FieldCodecProofs

/-! # The enumerations of a RAC context

    Each enumeration of the radio access API exists twice, as a native type and
    as a protobuf type, with a `switch` in each direction.  The native types are
    declared outside this repository: those below are the constants that the
    converter names, and their values are a parameter.  The tables are written out
    as in the source; what is proved of each is that the two directions undo each
    other and that the meaning of a constant is kept.  The meaning is what the name
    of the constant says: a spreading factor, a bandwidth in kilohertz, a coding
    rate. -/

namespace RacEnum

open FieldCodec

/-! ## Spreading factor -/

/-- The constants of `ral_lora_sf_t`. -/
inductive RalLoraSf where
  | sf5 | sf6 | sf7 | sf8 | sf9 | sf10 | sf11 | sf12
  deriving DecidableEq, Repr

instance : Constants RalLoraSf where
  constants := [.sf5, .sf6, .sf7, .sf8, .sf9, .sf10, .sf11, .sf12]
  mem_constants c := by cases c <;> decide

/-- `lora_spreading_factor_pb_t`. -/
inductive LoraSpreadingFactorPb where
  | sf5 | sf6 | sf7 | sf8 | sf9 | sf10 | sf11 | sf12
  deriving DecidableEq, Repr

def RalLoraSf.factor : RalLoraSf → Nat
  | .sf5 => 5 | .sf6 => 6 | .sf7 => 7 | .sf8 => 8
  | .sf9 => 9 | .sf10 => 10 | .sf11 => 11 | .sf12 => 12

def LoraSpreadingFactorPb.factor : LoraSpreadingFactorPb → Nat
  | .sf5 => 5 | .sf6 => 6 | .sf7 => 7 | .sf8 => 8
  | .sf9 => 9 | .sf10 => 10 | .sf11 => 11 | .sf12 => 12

def sfToPbTable : RalLoraSf → LoraSpreadingFactorPb
  | .sf5 => .sf5
  | .sf6 => .sf6
  | .sf7 => .sf7
  | .sf8 => .sf8
  | .sf9 => .sf9
  | .sf10 => .sf10
  | .sf11 => .sf11
  | .sf12 => .sf12

def sfToNativeTable : LoraSpreadingFactorPb → RalLoraSf
  | .sf5 => .sf5
  | .sf6 => .sf6
  | .sf7 => .sf7
  | .sf8 => .sf8
  | .sf9 => .sf9
  | .sf10 => .sf10
  | .sf11 => .sf11
  | .sf12 => .sf12

/-- `convert_native_sf_to_pb`. -/
def convertNativeSfToPb (E : NativeEnum RalLoraSf) (x : Int) :
    CEnum LoraSpreadingFactorPb :=
  CEnum.switch sfToPbTable .sf7 (E.read x)

/-- `convert_pb_sf_to_native`. -/
def convertPbSfToNative (E : NativeEnum RalLoraSf)
    (x : CEnum LoraSpreadingFactorPb) : Int :=
  E.write (CEnum.switch sfToNativeTable .sf7 x)

/-! ## Bandwidth -/

/-- The constants of `ral_lora_bw_t`. -/
inductive RalLoraBw where
  | bw007Khz | bw010Khz | bw015Khz | bw020Khz | bw031Khz | bw041Khz | bw062Khz
  | bw125Khz | bw200Khz | bw250Khz | bw400Khz | bw500Khz | bw800Khz | bw1000Khz
  | bw1600Khz
  deriving DecidableEq, Repr

instance : Constants RalLoraBw where
  constants :=
    [.bw007Khz, .bw010Khz, .bw015Khz, .bw020Khz, .bw031Khz, .bw041Khz, .bw062Khz,
      .bw125Khz, .bw200Khz, .bw250Khz, .bw400Khz, .bw500Khz, .bw800Khz, .bw1000Khz,
      .bw1600Khz]
  mem_constants c := by cases c <;> decide

/-- `lora_bandwidth_pb_t`. -/
inductive LoraBandwidthPb where
  | bw007Khz | bw010Khz | bw015Khz | bw020Khz | bw031Khz | bw041Khz | bw062Khz
  | bw125Khz | bw200Khz | bw250Khz | bw400Khz | bw500Khz | bw800Khz | bw1000Khz
  | bw1600Khz
  deriving DecidableEq, Repr

def RalLoraBw.khz : RalLoraBw → Nat
  | .bw007Khz => 7 | .bw010Khz => 10 | .bw015Khz => 15 | .bw020Khz => 20
  | .bw031Khz => 31 | .bw041Khz => 41 | .bw062Khz => 62 | .bw125Khz => 125
  | .bw200Khz => 200 | .bw250Khz => 250 | .bw400Khz => 400 | .bw500Khz => 500
  | .bw800Khz => 800 | .bw1000Khz => 1000 | .bw1600Khz => 1600

def LoraBandwidthPb.khz : LoraBandwidthPb → Nat
  | .bw007Khz => 7 | .bw010Khz => 10 | .bw015Khz => 15 | .bw020Khz => 20
  | .bw031Khz => 31 | .bw041Khz => 41 | .bw062Khz => 62 | .bw125Khz => 125
  | .bw200Khz => 200 | .bw250Khz => 250 | .bw400Khz => 400 | .bw500Khz => 500
  | .bw800Khz => 800 | .bw1000Khz => 1000 | .bw1600Khz => 1600

def bwToPbTable : RalLoraBw → LoraBandwidthPb
  | .bw007Khz => .bw007Khz
  | .bw010Khz => .bw010Khz
  | .bw015Khz => .bw015Khz
  | .bw020Khz => .bw020Khz
  | .bw031Khz => .bw031Khz
  | .bw041Khz => .bw041Khz
  | .bw062Khz => .bw062Khz
  | .bw125Khz => .bw125Khz
  | .bw200Khz => .bw200Khz
  | .bw250Khz => .bw250Khz
  | .bw400Khz => .bw400Khz
  | .bw500Khz => .bw500Khz
  | .bw800Khz => .bw800Khz
  | .bw1000Khz => .bw1000Khz
  | .bw1600Khz => .bw1600Khz

def bwToNativeTable : LoraBandwidthPb → RalLoraBw
  | .bw007Khz => .bw007Khz
  | .bw010Khz => .bw010Khz
  | .bw015Khz => .bw015Khz
  | .bw020Khz => .bw020Khz
  | .bw031Khz => .bw031Khz
  | .bw041Khz => .bw041Khz
  | .bw062Khz => .bw062Khz
  | .bw125Khz => .bw125Khz
  | .bw200Khz => .bw200Khz
  | .bw250Khz => .bw250Khz
  | .bw400Khz => .bw400Khz
  | .bw500Khz => .bw500Khz
  | .bw800Khz => .bw800Khz
  | .bw1000Khz => .bw1000Khz
  | .bw1600Khz => .bw1600Khz

/-- `convert_native_bw_to_pb`. -/
def convertNativeBwToPb (E : NativeEnum RalLoraBw) (x : Int) :
    CEnum LoraBandwidthPb :=
  CEnum.switch bwToPbTable .bw125Khz (E.read x)

/-- `convert_pb_bw_to_native`. -/
def convertPbBwToNative (E : NativeEnum RalLoraBw)
    (x : CEnum LoraBandwidthPb) : Int :=
  E.write (CEnum.switch bwToNativeTable .bw125Khz x)

/-! ## Coding rate -/

/-- The constants of `ral_lora_cr_t`. -/
inductive RalLoraCr where
  | cr45 | cr46 | cr47 | cr48 | crLi45 | crLi46 | crLi48
  deriving DecidableEq, Repr

instance : Constants RalLoraCr where
  constants := [.cr45, .cr46, .cr47, .cr48, .crLi45, .crLi46, .crLi48]
  mem_constants c := by cases c <;> decide

/-- `lora_coding_rate_pb_t`. -/
inductive LoraCodingRatePb where
  | cr45 | cr46 | cr47 | cr48 | crLi45 | crLi46 | crLi48
  deriving DecidableEq, Repr

/-- Coded bits for four, and whether with long interleaving. -/
def RalLoraCr.rate : RalLoraCr → Nat × Bool
  | .cr45 => (5, false) | .cr46 => (6, false) | .cr47 => (7, false)
  | .cr48 => (8, false) | .crLi45 => (5, true) | .crLi46 => (6, true)
  | .crLi48 => (8, true)

def LoraCodingRatePb.rate : LoraCodingRatePb → Nat × Bool
  | .cr45 => (5, false) | .cr46 => (6, false) | .cr47 => (7, false)
  | .cr48 => (8, false) | .crLi45 => (5, true) | .crLi46 => (6, true)
  | .crLi48 => (8, true)

def crToPbTable : RalLoraCr → LoraCodingRatePb
  | .cr45 => .cr45
  | .cr46 => .cr46
  | .cr47 => .cr47
  | .cr48 => .cr48
  | .crLi45 => .crLi45
  | .crLi46 => .crLi46
  | .crLi48 => .crLi48

def crToNativeTable : LoraCodingRatePb → RalLoraCr
  | .cr45 => .cr45
  | .cr46 => .cr46
  | .cr47 => .cr47
  | .cr48 => .cr48
  | .crLi45 => .crLi45
  | .crLi46 => .crLi46
  | .crLi48 => .crLi48

/-- `convert_native_cr_to_pb`. -/
def convertNativeCrToPb (E : NativeEnum RalLoraCr) (x : Int) :
    CEnum LoraCodingRatePb :=
  CEnum.switch crToPbTable .cr45 (E.read x)

/-- `convert_pb_cr_to_native`. -/
def convertPbCrToNative (E : NativeEnum RalLoraCr)
    (x : CEnum LoraCodingRatePb) : Int :=
  E.write (CEnum.switch crToNativeTable .cr45 x)

/-! ## Header type -/

/-- The constants of `ral_lora_pkt_len_modes_t`. -/
inductive RalLoraPktLenModes where
  | explicit
  | implicit
  deriving DecidableEq, Repr

instance : Constants RalLoraPktLenModes where
  constants := [.explicit, .implicit]
  mem_constants c := by cases c <;> decide

/-- `lora_packet_length_mode_pb_t`. -/
inductive LoraPacketLengthModePb where
  | explicitHeader
  | implicitHeader
  deriving DecidableEq, Repr

/-- The packet carries its length. -/
def RalLoraPktLenModes.carriesLength : RalLoraPktLenModes → Bool
  | .explicit => true
  | .implicit => false

def LoraPacketLengthModePb.carriesLength : LoraPacketLengthModePb → Bool
  | .explicitHeader => true
  | .implicitHeader => false

def headerTypeToPbTable : RalLoraPktLenModes → LoraPacketLengthModePb
  | .explicit => .explicitHeader
  | .implicit => .implicitHeader

def headerTypeToNativeTable : LoraPacketLengthModePb → RalLoraPktLenModes
  | .explicitHeader => .explicit
  | .implicitHeader => .implicit

/-- `convert_native_header_type_to_pb`. -/
def convertNativeHeaderTypeToPb (E : NativeEnum RalLoraPktLenModes) (x : Int) :
    CEnum LoraPacketLengthModePb :=
  CEnum.switch headerTypeToPbTable .explicitHeader (E.read x)

/-- `convert_pb_header_type_to_native`. -/
def convertPbHeaderTypeToNative (E : NativeEnum RalLoraPktLenModes)
    (x : CEnum LoraPacketLengthModePb) : Int :=
  E.write (CEnum.switch headerTypeToNativeTable .explicit x)

/-! ## Sync word -/

/-- The constants of `smtc_rac_lora_syncword_t`. -/
inductive SmtcRacLoraSyncword where
  | privateNetwork
  | publicNetwork
  deriving DecidableEq, Repr

instance : Constants SmtcRacLoraSyncword where
  constants := [.privateNetwork, .publicNetwork]
  mem_constants c := by cases c <;> decide

/-- `lora_syncword_pb_t`. -/
inductive LoraSyncwordPb where
  | privateNetwork
  | publicNetwork
  deriving DecidableEq, Repr

/-- The byte sent. -/
def SmtcRacLoraSyncword.byte : SmtcRacLoraSyncword → Nat
  | .privateNetwork => 0x12
  | .publicNetwork => 0x34

def LoraSyncwordPb.byte : LoraSyncwordPb → Nat
  | .privateNetwork => 0x12
  | .publicNetwork => 0x34

def syncWordToPbTable : SmtcRacLoraSyncword → LoraSyncwordPb
  | .privateNetwork => .privateNetwork
  | .publicNetwork => .publicNetwork

def syncWordToNativeTable : LoraSyncwordPb → SmtcRacLoraSyncword
  | .privateNetwork => .privateNetwork
  | .publicNetwork => .publicNetwork

/-- `convert_native_sync_word_to_pb`. -/
def convertNativeSyncWordToPb (E : NativeEnum SmtcRacLoraSyncword) (x : Int) :
    CEnum LoraSyncwordPb :=
  CEnum.switch syncWordToPbTable .privateNetwork (E.read x)

/-- `convert_pb_sync_word_to_native`. -/
def convertPbSyncWordToNative (E : NativeEnum SmtcRacLoraSyncword)
    (x : CEnum LoraSyncwordPb) : Int :=
  E.write (CEnum.switch syncWordToNativeTable .privateNetwork x)

/-! ## Scheduling -/

/-- The constants of `smtc_rac_scheduling_t`. -/
inductive SmtcRacScheduling where
  | scheduledTransaction
  | asapTransaction
  deriving DecidableEq, Repr

instance : Constants SmtcRacScheduling where
  constants := [.scheduledTransaction, .asapTransaction]
  mem_constants c := by cases c <;> decide

/-- `smtc_rac_scheduling_pb_t`. -/
inductive SmtcRacSchedulingPb where
  | scheduledTransaction
  | asapTransaction
  deriving DecidableEq, Repr

/-- The transaction waits for its start time. -/
def SmtcRacScheduling.waits : SmtcRacScheduling → Bool
  | .scheduledTransaction => true
  | .asapTransaction => false

def SmtcRacSchedulingPb.waits : SmtcRacSchedulingPb → Bool
  | .scheduledTransaction => true
  | .asapTransaction => false

def schedulingToPbTable : SmtcRacScheduling → SmtcRacSchedulingPb
  | .scheduledTransaction => .scheduledTransaction
  | .asapTransaction => .asapTransaction

def schedulingFromPbTable : SmtcRacSchedulingPb → SmtcRacScheduling
  | .scheduledTransaction => .scheduledTransaction
  | .asapTransaction => .asapTransaction

/-- `rac_convert_scheduling_to_pb`. -/
def racConvertSchedulingToPb (E : NativeEnum SmtcRacScheduling) (x : Int) :
    CEnum SmtcRacSchedulingPb :=
  CEnum.switch schedulingToPbTable .asapTransaction (E.read x)

/-- `rac_convert_scheduling_from_pb`. -/
def racConvertSchedulingFromPb (E : NativeEnum SmtcRacScheduling)
    (x : CEnum SmtcRacSchedulingPb) : Int :=
  E.write (CEnum.switch schedulingFromPbTable .asapTransaction x)

/-! ## Modulation -/

/-- The constants of `smtc_rac_modulation_type_t`. -/
inductive SmtcRacModulationType where
  | lora
  | fsk
  | lrfhss
  | flrc
  deriving DecidableEq, Repr

instance : Constants SmtcRacModulationType where
  constants := [.lora, .fsk, .lrfhss, .flrc]
  mem_constants c := by cases c <;> decide

/-- `smtc_rac_modulation_type_pb_t`. -/
inductive SmtcRacModulationTypePb where
  | lora
  | fsk
  | lrfhss
  | flrc
  deriving DecidableEq, Repr

def modulationTypeFromPbTable : SmtcRacModulationTypePb → SmtcRacModulationType
  | .lora => .lora
  | .fsk => .fsk
  | .lrfhss => .lrfhss
  | .flrc => .flrc

/-- `rac_convert_modulation_type_from_pb`. -/
def racConvertModulationTypeFromPb (E : NativeEnum SmtcRacModulationType)
    (x : CEnum SmtcRacModulationTypePb) : Int :=
  E.write (CEnum.switch modulationTypeFromPbTable .lora x)

/-! ## Channel activity detection -/

/-- The constants of `ral_lora_cad_exit_modes_t`. -/
inductive RalLoraCadExitModes where
  | cadOnly
  | cadRx
  | cadLbt
  deriving DecidableEq, Repr

instance : Constants RalLoraCadExitModes where
  constants := [.cadOnly, .cadRx, .cadLbt]
  mem_constants c := by cases c <;> decide

/-- `ral_lora_cad_exit_modes_pb_t`. -/
inductive RalLoraCadExitModesPb where
  | cadOnly
  | cadRx
  | cadLbt
  deriving DecidableEq, Repr

/-- Whether the radio receives, and whether it transmits, after the
    detection. -/
def RalLoraCadExitModes.next : RalLoraCadExitModes → Bool × Bool
  | .cadOnly => (false, false)
  | .cadRx => (true, false)
  | .cadLbt => (false, true)

def RalLoraCadExitModesPb.next : RalLoraCadExitModesPb → Bool × Bool
  | .cadOnly => (false, false)
  | .cadRx => (true, false)
  | .cadLbt => (false, true)

def cadExitModeToPbTable : RalLoraCadExitModes → RalLoraCadExitModesPb
  | .cadOnly => .cadOnly
  | .cadRx => .cadRx
  | .cadLbt => .cadLbt

def cadExitModeFromPbTable : RalLoraCadExitModesPb → RalLoraCadExitModes
  | .cadOnly => .cadOnly
  | .cadRx => .cadRx
  | .cadLbt => .cadLbt

/-- The constants of `ral_lora_cad_symbs_t`. -/
inductive RalLoraCadSymbs where
  | cad01Symb | cad02Symb | cad04Symb | cad08Symb | cad16Symb
  deriving DecidableEq, Repr

instance : Constants RalLoraCadSymbs where
  constants := [.cad01Symb, .cad02Symb, .cad04Symb, .cad08Symb, .cad16Symb]
  mem_constants c := by cases c <;> decide

/-- `ral_lora_cad_symbs_pb_t`. -/
inductive RalLoraCadSymbsPb where
  | cad01Symb | cad02Symb | cad04Symb | cad08Symb | cad16Symb
  deriving DecidableEq, Repr

def RalLoraCadSymbs.symbols : RalLoraCadSymbs → Nat
  | .cad01Symb => 1 | .cad02Symb => 2 | .cad04Symb => 4 | .cad08Symb => 8
  | .cad16Symb => 16

def RalLoraCadSymbsPb.symbols : RalLoraCadSymbsPb → Nat
  | .cad01Symb => 1 | .cad02Symb => 2 | .cad04Symb => 4 | .cad08Symb => 8
  | .cad16Symb => 16

def cadSymbNbToPbTable : RalLoraCadSymbs → RalLoraCadSymbsPb
  | .cad01Symb => .cad01Symb
  | .cad02Symb => .cad02Symb
  | .cad04Symb => .cad04Symb
  | .cad08Symb => .cad08Symb
  | .cad16Symb => .cad16Symb

def cadSymbNbFromPbTable : RalLoraCadSymbsPb → RalLoraCadSymbs
  | .cad01Symb => .cad01Symb
  | .cad02Symb => .cad02Symb
  | .cad04Symb => .cad04Symb
  | .cad08Symb => .cad08Symb
  | .cad16Symb => .cad16Symb

/-! ## The two directions undo each other -/

theorem sfTable_back (c : RalLoraSf) : sfToNativeTable (sfToPbTable c) = c := by
  cases c <;> rfl

theorem bwTable_back (c : RalLoraBw) : bwToNativeTable (bwToPbTable c) = c := by
  cases c <;> rfl

theorem crTable_back (c : RalLoraCr) : crToNativeTable (crToPbTable c) = c := by
  cases c <;> rfl

theorem headerTypeTable_back (c : RalLoraPktLenModes) :
    headerTypeToNativeTable (headerTypeToPbTable c) = c := by
  cases c <;> rfl

theorem syncWordTable_back (c : SmtcRacLoraSyncword) :
    syncWordToNativeTable (syncWordToPbTable c) = c := by
  cases c <;> rfl

theorem schedulingTable_back (c : SmtcRacScheduling) :
    schedulingFromPbTable (schedulingToPbTable c) = c := by
  cases c <;> rfl

theorem cadExitModeTable_back (c : RalLoraCadExitModes) :
    cadExitModeFromPbTable (cadExitModeToPbTable c) = c := by
  cases c <;> rfl

theorem cadSymbNbTable_back (c : RalLoraCadSymbs) :
    cadSymbNbFromPbTable (cadSymbNbToPbTable c) = c := by
  cases c <;> rfl

/-! ## The meaning of a constant is kept -/

theorem sfTable_factor (c : LoraSpreadingFactorPb) :
    c.factor = (sfToNativeTable c).factor := by
  cases c <;> rfl

theorem bwTable_khz (c : LoraBandwidthPb) :
    c.khz = (bwToNativeTable c).khz := by
  cases c <;> rfl

theorem crTable_rate (c : LoraCodingRatePb) :
    c.rate = (crToNativeTable c).rate := by
  cases c <;> rfl

theorem headerTypeTable_carriesLength (c : LoraPacketLengthModePb) :
    c.carriesLength = (headerTypeToNativeTable c).carriesLength := by
  cases c <;> rfl

theorem syncWordTable_byte (c : LoraSyncwordPb) :
    c.byte = (syncWordToNativeTable c).byte := by
  cases c <;> rfl

theorem schedulingTable_waits (c : SmtcRacSchedulingPb) :
    c.waits = (schedulingFromPbTable c).waits := by
  cases c <;> rfl

theorem cadExitModeTable_next (c : RalLoraCadExitModesPb) :
    c.next = (cadExitModeFromPbTable c).next := by
  cases c <;> rfl

theorem cadSymbNbTable_symbols (c : RalLoraCadSymbsPb) :
    c.symbols = (cadSymbNbFromPbTable c).symbols := by
  cases c <;> rfl

end RacEnum
