import Mathlib.Data.Int.Basic

/-! # The TX power of the three drivers

    `ral_*_bsp_get_tx_cfg` adds the power offset of the board to the power
    requested, clamps the sum to the range of the power amplifier and takes the
    entry for it from a device-tree table; the consumption estimate finds its own
    entry from the power in the configuration.

    The sum is formed in 16 bits, but the LR11xx and the LR20xx hand it to a
    function whose parameter has 8 before they clamp it.  What a driver does with
    a sum that has arrived is right for all of them (`configure_right`);
    `clampsRight_iff` says that the sums that arrive are the ones that fit. -/

namespace TxPower

/-! ## Machine integers and tables -/

/-- The value of `n` in `int8_t`. -/
def int8 (n : Int) : Int := Int.bmod n 256

/-- The value of `n` in `int16_t`. -/
def int16 (n : Int) : Int := Int.bmod n 65536

/-- The value of `n` in `uint8_t`. -/
def uint8 (n : Int) : Int := n % 256

def CLAMP (val low high : Int) : Int := if val ≤ low then low else min val high

/-- A table of at least `n` entries. -/
structure Table (α : Type) (n : Nat) where
  entries : List α
  length_le : n ≤ entries.length

/-- The entry at an index, `none` outside. -/
def entryAt {α : Type} (entries : List α) (index : Int) : Option α :=
  if 0 ≤ index then entries[index.toNat]? else none

/-- `radio_utilities_get_tx_power_offset`. -/
def radioUtilitiesGetTxPowerOffset (txPowerOffsetDbCurrent : Int8) : UInt8 :=
  txPowerOffsetDbCurrent.toUInt8

/-- `input_params->system_output_pwr_in_dbm + board_tx_pwr_offset_db`. -/
def powerSum (offset requested : Int8) : Int :=
  let boardTxPwrOffsetDb := (radioUtilitiesGetTxPowerOffset offset).toInt8
  int16 (requested.toInt + boardTxPwrOffsetDb.toInt)

inductive RegMode where
  | ldo
  | dcdc
  deriving DecidableEq, Repr

/-- `ral_status_t`, when it is not `RAL_STATUS_OK`. -/
inductive RalStatus where
  | unsupportedFeature
  | unknownValue
  deriving DecidableEq, Repr

/-- The index that a consumption estimate derives from a power. -/
def consumptionIndex (expected minOutputPower maxOutputPower offset : Int) : Int :=
  if maxOutputPower < expected then uint8 (maxOutputPower + offset)
  else if expected < minOutputPower then uint8 (minOutputPower + offset)
  else uint8 (expected + offset)

/-! ## LR11xx -/

def LR11XX_LF_LP_MIN_OUTPUT_POWER : Int := -17
def LR11XX_LF_LP_MAX_OUTPUT_POWER : Int := 15
def LR11XX_LF_HP_MIN_OUTPUT_POWER : Int := -9
def LR11XX_LF_HP_MAX_OUTPUT_POWER : Int := 22
def LR11XX_HF_MIN_OUTPUT_POWER : Int := -18
def LR11XX_HF_MAX_OUTPUT_POWER : Int := 13
def LR11XX_LP_CONVERT_TABLE_INDEX_OFFSET : Int := 17
def LR11XX_HP_CONVERT_TABLE_INDEX_OFFSET : Int := 9
def LR11XX_HF_CONVERT_TABLE_INDEX_OFFSET : Int := 18
def LR11XX_PWR_VREG_VBAT_SWITCH : Int := 8

/-- `lr11xx_pa_type_t`. -/
inductive Lr11xxPaType where
  | withLfLpPa
  | withLfHpPa
  | withLfLpHpPa
  | withHfPa
  deriving DecidableEq, Repr

inductive Lr11xxPaSel where
  | lp
  | hp
  | hf
  /-- Any other value. -/
  | other
  deriving DecidableEq, Repr

inductive Lr11xxRegSupply where
  | vreg
  | vbat
  deriving DecidableEq, Repr

/-- `lr11xx_pa_pwr_cfg_t`. -/
structure Lr11xxPaPwrCfg where
  power : Int8
  paDutyCycle : UInt8
  paHpSel : UInt8

/-- The fields of `struct lr11xx_hal_context_cfg_t` that are read here. -/
structure Lr11xxConfig where
  paRampTime : Nat
  paLfLpCfgTable : Table Lr11xxPaPwrCfg 33
  paLfHpCfgTable : Table Lr11xxPaPwrCfg 32
  paHfCfgTable : Table Lr11xxPaPwrCfg 32
  txDbmToUaRegModeDcdcLfLpVreg : Table UInt32 33
  txDbmToUaRegModeLdoLfLpVreg : Table UInt32 33
  txDbmToUaRegModeDcdcLfHpVbat : Table UInt32 32
  txDbmToUaRegModeLdoLfHpVbat : Table UInt32 32
  txDbmToUaRegModeDcdcHfVreg : Table UInt32 32

/-- `ral_lr11xx_bsp_tx_cfg_output_params_t`. -/
structure Lr11xxTxCfg where
  paRampTime : Nat
  paSel : Lr11xxPaSel
  paRegSupply : Lr11xxRegSupply
  paDutyCycle : UInt8
  paHpSel : UInt8
  chipOutputPwrInDbmConfigured : Int8
  chipOutputPwrInDbmExpected : Int

/-- The output parameters from the entry for `power`. -/
def lr11xxOutput (config : Lr11xxConfig) (paSel : Lr11xxPaSel)
    (paRegSupply : Lr11xxRegSupply) (table : List Lr11xxPaPwrCfg)
    (minOutputPower power : Int) : Option Lr11xxTxCfg :=
  (entryAt table (power - minOutputPower)).map fun pwrCfg =>
    { paRampTime := config.paRampTime
      paSel
      paRegSupply
      paDutyCycle := pwrCfg.paDutyCycle
      paHpSel := pwrCfg.paHpSel
      chipOutputPwrInDbmConfigured := pwrCfg.power
      chipOutputPwrInDbmExpected := power }

/-- `lr11xx_get_tx_cfg`; `none` when it reads outside a table. -/
def lr11xxGetTxCfg (config : Lr11xxConfig) (paType : Lr11xxPaType)
    (expectedOutputPwrInDbm : Int) : Option Lr11xxTxCfg :=
  match paType with
  | .withLfLpPa =>
      let power := CLAMP expectedOutputPwrInDbm LR11XX_LF_LP_MIN_OUTPUT_POWER
        LR11XX_LF_LP_MAX_OUTPUT_POWER
      lr11xxOutput config .lp .vreg config.paLfLpCfgTable.entries
        LR11XX_LF_LP_MIN_OUTPUT_POWER power
  | .withLfHpPa =>
      let power := CLAMP expectedOutputPwrInDbm LR11XX_LF_HP_MIN_OUTPUT_POWER
        LR11XX_LF_HP_MAX_OUTPUT_POWER
      lr11xxOutput config .hp
        (if power ≤ LR11XX_PWR_VREG_VBAT_SWITCH then .vreg else .vbat)
        config.paLfHpCfgTable.entries LR11XX_LF_HP_MIN_OUTPUT_POWER power
  | .withLfLpHpPa =>
      let power := CLAMP expectedOutputPwrInDbm LR11XX_LF_LP_MIN_OUTPUT_POWER
        LR11XX_LF_HP_MAX_OUTPUT_POWER
      if power ≤ LR11XX_LF_LP_MAX_OUTPUT_POWER then
        lr11xxOutput config .lp .vreg config.paLfLpCfgTable.entries
          LR11XX_LF_LP_MIN_OUTPUT_POWER power
      else
        lr11xxOutput config .hp .vbat config.paLfHpCfgTable.entries
          LR11XX_LF_HP_MIN_OUTPUT_POWER power
  | .withHfPa =>
      let power := CLAMP expectedOutputPwrInDbm LR11XX_HF_MIN_OUTPUT_POWER
        LR11XX_HF_MAX_OUTPUT_POWER
      lr11xxOutput config .hf .vreg config.paHfCfgTable.entries
        LR11XX_HF_MIN_OUTPUT_POWER power

/-- The choice of the power amplifier in `ral_lr11xx_bsp_get_tx_cfg`. -/
def lr11xxPaType (freqInHz : Nat) : Lr11xxPaType :=
  if 1600000000 ≤ freqInHz then .withHfPa else .withLfLpHpPa

/-- `ral_lr11xx_bsp_get_tx_cfg`: the parameter of `lr11xx_get_tx_cfg` has 8
    bits. -/
def ralLr11xxBspGetTxCfg (config : Lr11xxConfig) (offset : Int8)
    (freqInHz : Nat) (systemOutputPwrInDbm : Int8) : Option Lr11xxTxCfg :=
  let power := powerSum offset systemOutputPwrInDbm
  lr11xxGetTxCfg config (lr11xxPaType freqInHz) (int8 power)

/-- `ral_lr11xx_bsp_get_instantaneous_tx_power_consumption`. -/
def ralLr11xxBspGetInstantaneousTxPowerConsumption (config : Lr11xxConfig)
    (txCfg : Lr11xxTxCfg) (radioRegMode : RegMode) :
    Option (Except RalStatus UInt32) :=
  match txCfg.paSel with
  | .lp =>
      if txCfg.paRegSupply = .vreg then
        let index := consumptionIndex txCfg.chipOutputPwrInDbmExpected
          LR11XX_LF_LP_MIN_OUTPUT_POWER LR11XX_LF_LP_MAX_OUTPUT_POWER
          LR11XX_LP_CONVERT_TABLE_INDEX_OFFSET
        if radioRegMode = .dcdc then
          (entryAt config.txDbmToUaRegModeDcdcLfLpVreg.entries index).map .ok
        else (entryAt config.txDbmToUaRegModeLdoLfLpVreg.entries index).map .ok
      else some (.error .unsupportedFeature)
  | .hp =>
      if txCfg.paRegSupply = .vbat then
        let index := consumptionIndex txCfg.chipOutputPwrInDbmExpected
          LR11XX_LF_HP_MIN_OUTPUT_POWER LR11XX_LF_HP_MAX_OUTPUT_POWER
          LR11XX_HP_CONVERT_TABLE_INDEX_OFFSET
        if radioRegMode = .dcdc then
          (entryAt config.txDbmToUaRegModeDcdcLfHpVbat.entries index).map .ok
        else (entryAt config.txDbmToUaRegModeLdoLfHpVbat.entries index).map .ok
      else some (.error .unsupportedFeature)
  | .hf =>
      if txCfg.paRegSupply = .vreg then
        let index := consumptionIndex txCfg.chipOutputPwrInDbmExpected
          LR11XX_HF_MIN_OUTPUT_POWER LR11XX_HF_MAX_OUTPUT_POWER
          LR11XX_HF_CONVERT_TABLE_INDEX_OFFSET
        if radioRegMode = .dcdc then
          (entryAt config.txDbmToUaRegModeDcdcHfVreg.entries index).map .ok
        else some (.error .unsupportedFeature)
      else some (.error .unsupportedFeature)
  | .other => some (.error .unknownValue)

/-! ## LR20xx -/

def LR20XX_LF_MIN_OUTPUT_POWER : Int := -10
def LR20XX_LF_MAX_OUTPUT_POWER : Int := 22
def LR20XX_HF_MIN_OUTPUT_POWER : Int := -17
def LR20XX_HF_MAX_OUTPUT_POWER : Int := 12

inductive Lr20xxPaSel where
  | lf
  | hf
  /-- Any other value. -/
  | other
  deriving DecidableEq, Repr

inductive Lr20xxPaLfMode where
  | fsm
  deriving DecidableEq, Repr

/-- `lr20xx_pa_pwr_cfg_t`. -/
structure Lr20xxPaPwrCfg where
  halfPower : Int8
  paDutyCycle : UInt8
  paLfSlices : UInt8

/-- The fields of `struct lr20xx_hal_context_cfg_t` that are read here.  The
    tables of the boards begin at the powers above, where the text of the
    binding has -18 dBm for the high-frequency one. -/
structure Lr20xxConfig where
  paRampTime : Nat
  paLfCfgTable : Table Lr20xxPaPwrCfg 33
  paHfCfgTable : Table Lr20xxPaPwrCfg 30
  txDbmToUaRegModeDcdcLfVreg : Table UInt32 33
  txDbmToUaRegModeLdoLfVreg : Table UInt32 33
  txDbmToUaRegModeDcdcHfVreg : Table UInt32 30

/-- `ral_lr20xx_bsp_tx_cfg_output_params_t`. -/
structure Lr20xxTxCfg where
  paRampTime : Nat
  paSel : Lr20xxPaSel
  paLfMode : Lr20xxPaLfMode
  paLfSlices : UInt8
  paLfDutyCycle : UInt8
  paHfDutyCycle : UInt8
  chipOutputHalfPwrInDbmConfigured : Int8
  chipOutputPwrInDbmExpected : Int

/-- The bounds check of `lr20xx_get_tx_cfg`. -/
def lr20xxBounded (power minOutputPower maxOutputPower : Int) : Int :=
  if power < minOutputPower then minOutputPower
  else if maxOutputPower < power then maxOutputPower
  else power

/-- `lr20xx_get_tx_cfg`; `none` when it reads outside a table. -/
def lr20xxGetTxCfg (config : Lr20xxConfig) (paType : Lr20xxPaSel)
    (expectedOutputPwrInDbm : Int) : Option Lr20xxTxCfg :=
  match paType with
  | .lf =>
      let power := lr20xxBounded expectedOutputPwrInDbm
        LR20XX_LF_MIN_OUTPUT_POWER LR20XX_LF_MAX_OUTPUT_POWER
      (entryAt config.paLfCfgTable.entries
        (power - LR20XX_LF_MIN_OUTPUT_POWER)).map fun pwrCfg =>
          { paRampTime := config.paRampTime
            paSel := .lf
            paLfMode := .fsm
            paLfSlices := pwrCfg.paLfSlices
            paLfDutyCycle := pwrCfg.paDutyCycle
            paHfDutyCycle := 16
            chipOutputHalfPwrInDbmConfigured := pwrCfg.halfPower
            chipOutputPwrInDbmExpected := power }
  | .hf =>
      let power := lr20xxBounded expectedOutputPwrInDbm
        LR20XX_HF_MIN_OUTPUT_POWER LR20XX_HF_MAX_OUTPUT_POWER
      (entryAt config.paHfCfgTable.entries
        (power - LR20XX_HF_MIN_OUTPUT_POWER)).map fun pwrCfg =>
          { paRampTime := config.paRampTime
            paSel := .hf
            paLfMode := .fsm
            paLfSlices := 7
            paLfDutyCycle := 0
            paHfDutyCycle := pwrCfg.paDutyCycle
            chipOutputHalfPwrInDbmConfigured := pwrCfg.halfPower
            chipOutputPwrInDbmExpected := power }
  | .other => none

/-- The choice of the power amplifier in `ral_lr20xx_bsp_get_tx_cfg`. -/
def lr20xxPaType (freqInHz : Nat) : Lr20xxPaSel :=
  if 1500000000 ≤ freqInHz then .hf else .lf

/-- `ral_lr20xx_bsp_get_tx_cfg`: the parameter of `lr20xx_get_tx_cfg` has 8
    bits. -/
def ralLr20xxBspGetTxCfg (config : Lr20xxConfig) (offset : Int8)
    (freqInHz : Nat) (systemOutputPwrInDbm : Int8) : Option Lr20xxTxCfg :=
  let power := powerSum offset systemOutputPwrInDbm
  lr20xxGetTxCfg config (lr20xxPaType freqInHz) (int8 power)

/-- The index of `ral_lr20xx_bsp_get_instantaneous_tx_power_consumption`. -/
def lr20xxConsumptionIndex (expected minOutputPower maxOutputPower : Int) : Int :=
  if maxOutputPower < expected then uint8 (maxOutputPower - minOutputPower)
  else if expected < minOutputPower then 0
  else uint8 (expected - minOutputPower)

/-- `ral_lr20xx_bsp_get_instantaneous_tx_power_consumption`. -/
def ralLr20xxBspGetInstantaneousTxPowerConsumption (config : Lr20xxConfig)
    (txCfg : Lr20xxTxCfg) (radioRegMode : RegMode) :
    Option (Except RalStatus UInt32) :=
  match txCfg.paSel with
  | .lf =>
      let index := lr20xxConsumptionIndex txCfg.chipOutputPwrInDbmExpected
        LR20XX_LF_MIN_OUTPUT_POWER LR20XX_LF_MAX_OUTPUT_POWER
      if radioRegMode = .dcdc then
        (entryAt config.txDbmToUaRegModeDcdcLfVreg.entries index).map .ok
      else (entryAt config.txDbmToUaRegModeLdoLfVreg.entries index).map .ok
  | .hf =>
      let index := lr20xxConsumptionIndex txCfg.chipOutputPwrInDbmExpected
        LR20XX_HF_MIN_OUTPUT_POWER LR20XX_HF_MAX_OUTPUT_POWER
      if radioRegMode = .dcdc then
        (entryAt config.txDbmToUaRegModeDcdcHfVreg.entries index).map .ok
      else some (.error .unsupportedFeature)
  | .other => some (.error .unknownValue)

/-! ## SX126x -/

def SX1261_MIN_OUTPUT_POWER : Int := -17
def SX1261_MAX_OUTPUT_POWER : Int := 15
def SX1262_MIN_OUTPUT_POWER : Int := -9
def SX1262_MAX_OUTPUT_POWER : Int := 22
def SX126X_LP_MIN_OUTPUT_POWER : Int := -17
def SX126X_LP_MAX_OUTPUT_POWER : Int := 15
def SX126X_HP_MIN_OUTPUT_POWER : Int := -9
def SX126X_HP_MAX_OUTPUT_POWER : Int := 22
def SX126X_LP_CONVERT_TABLE_INDEX_OFFSET : Int := 17
def SX126X_HP_CONVERT_TABLE_INDEX_OFFSET : Int := 9

/-- From -17 to 15 dBm. -/
def ralSx126xConvertTxDbmToUaRegModeDcdcLp : List UInt32 :=
  [5200, 5400, 5600, 5700, 5800, 6000, 6100, 6200, 6500, 6800, 7000, 7300,
    7500, 7900, 8300, 8800, 9300, 9800, 10600, 11400, 12200, 12900, 13800,
    14700, 15700, 16600, 17900, 18500, 20500, 21900, 23500, 25500, 32500]

/-- From -17 to 15 dBm. -/
def ralSx126xConvertTxDbmToUaRegModeLdoLp : List UInt32 :=
  [9800, 10300, 10500, 10800, 11100, 11300, 11600, 11900, 12400, 12900, 13400,
    13900, 14500, 15300, 16000, 17000, 18000, 19000, 20600, 22000, 23500,
    24900, 26600, 28400, 30200, 32000, 34300, 36600, 39200, 41700, 44700,
    48200, 52200]

/-- From -9 to 22 dBm. -/
def ralSx126xConvertTxDbmToUaRegModeDcdcHp : List UInt32 :=
  [24000, 25400, 26700, 28000, 30600, 31900, 33200, 35700, 38200, 40600,
    42900, 46200, 48200, 51800, 54100, 57000, 60300, 63500, 67100, 70500,
    74200, 78400, 83500, 89300, 92400, 94500, 95400, 97500, 100100, 103800,
    109100, 117900]

/-- From -9 to 22 dBm. -/
def ralSx126xConvertTxDbmToUaRegModeLdoHp : List UInt32 :=
  [25900, 27400, 28700, 30000, 32600, 33900, 35200, 37700, 40100, 42600,
    44900, 48200, 50200, 53800, 56100, 59000, 62300, 65500, 69000, 72500,
    76200, 80400, 85400, 90200, 94400, 96500, 97700, 99500, 102100, 105800,
    111000, 119800]

/-- The chip that the build is for. -/
inductive Sx126xChip where
  | sx1261
  | sx1262
  | sx1268
  deriving DecidableEq, Repr

/-- `sx126x_pa_pwr_cfg_t`. -/
structure Sx126xPaPwrCfg where
  power : Int8
  paDutyCycle : UInt8
  hpMax : UInt8

/-- The powers of the chip. -/
def Sx126xChip.minOutputPower : Sx126xChip → Int
  | .sx1261 => SX1261_MIN_OUTPUT_POWER
  | .sx1262 | .sx1268 => SX1262_MIN_OUTPUT_POWER

def Sx126xChip.maxOutputPower : Sx126xChip → Int
  | .sx1261 => SX1261_MAX_OUTPUT_POWER
  | .sx1262 | .sx1268 => SX1262_MAX_OUTPUT_POWER

def Sx126xChip.deviceSel : Sx126xChip → UInt8
  | .sx1261 => 0x01
  | .sx1262 | .sx1268 => 0x00

/-- How many powers the chip has. -/
def Sx126xChip.powers : Sx126xChip → Nat
  | .sx1261 => 33
  | .sx1262 | .sx1268 => 32

/-- The fields of `struct sx126x_hal_context_cfg_t` that are read here. -/
structure Sx126xConfig (chip : Sx126xChip) where
  paRampTime : Nat
  paCfgTable : Table Sx126xPaPwrCfg chip.powers

/-- `ral_sx126x_bsp_tx_cfg_output_params_t`. -/
structure Sx126xTxCfg where
  paRampTime : Nat
  paLut : UInt8
  deviceSel : UInt8
  hpMax : UInt8
  paDutyCycle : UInt8
  chipOutputPwrInDbmConfigured : Int8
  chipOutputPwrInDbmExpected : Int

/-- The clamping of `ral_sx126x_bsp_get_tx_cfg`. -/
def sx126xClamped (power minOutputPower maxOutputPower : Int) : Int :=
  let power := if maxOutputPower < power then maxOutputPower else power
  if power < minOutputPower then minOutputPower else power

/-- `ral_sx126x_bsp_get_tx_cfg` from the sum on. -/
def sx126xGetTxCfg {chip : Sx126xChip} (config : Sx126xConfig chip)
    (power : Int) : Option Sx126xTxCfg :=
  let power := sx126xClamped power chip.minOutputPower chip.maxOutputPower
  (entryAt config.paCfgTable.entries (power - chip.minOutputPower)).map
    fun pwrCfg =>
      { paRampTime := config.paRampTime
        paLut := 0x01
        deviceSel := chip.deviceSel
        hpMax := pwrCfg.hpMax
        paDutyCycle := pwrCfg.paDutyCycle
        chipOutputPwrInDbmConfigured := pwrCfg.power
        chipOutputPwrInDbmExpected := int8 power }

/-- `ral_sx126x_bsp_get_tx_cfg`: the frequency is not looked at. -/
def ralSx126xBspGetTxCfg {chip : Sx126xChip} (config : Sx126xConfig chip)
    (offset systemOutputPwrInDbm : Int8) : Option Sx126xTxCfg :=
  sx126xGetTxCfg config (powerSum offset systemOutputPwrInDbm)

/-- `ral_sx126x_bsp_get_instantaneous_tx_power_consumption`. -/
def ralSx126xBspGetInstantaneousTxPowerConsumption (txCfg : Sx126xTxCfg)
    (radioRegMode : RegMode) : Option (Except RalStatus UInt32) :=
  if txCfg.deviceSel = 0x01 then
    let index := consumptionIndex txCfg.chipOutputPwrInDbmExpected
      SX126X_LP_MIN_OUTPUT_POWER SX126X_LP_MAX_OUTPUT_POWER
      SX126X_LP_CONVERT_TABLE_INDEX_OFFSET
    if radioRegMode = .dcdc then
      (entryAt ralSx126xConvertTxDbmToUaRegModeDcdcLp index).map .ok
    else (entryAt ralSx126xConvertTxDbmToUaRegModeLdoLp index).map .ok
  else if txCfg.deviceSel = 0x00 then
    let index := consumptionIndex txCfg.chipOutputPwrInDbmExpected
      SX126X_HP_MIN_OUTPUT_POWER SX126X_HP_MAX_OUTPUT_POWER
      SX126X_HP_CONVERT_TABLE_INDEX_OFFSET
    if radioRegMode = .dcdc then
      (entryAt ralSx126xConvertTxDbmToUaRegModeDcdcHp index).map .ok
    else (entryAt ralSx126xConvertTxDbmToUaRegModeLdoHp index).map .ok
  else some (.error .unknownValue)

/-! ## What is asked for -/

/-- A power amplifier at a power: its tables, whose first entries are for the
    power `first`. -/
structure Path (Entry : Type) where
  first : Int
  table : List Entry
  consumption : List UInt32

/-- A driver with its configuration.  `range` and `path` say what the frequency
    selects, and `Uses` that the output has what an entry says. -/
structure Driver where
  Output : Type
  Entry : Type
  range : Nat → Int × Int
  path : Nat → Int → Path Entry
  Uses : Nat → Int → Output → Entry → Prop
  getTxCfg : Nat → Int8 → Int8 → Option Output
  expected : Output → Int
  consumption : Output → RegMode → Option (Except RalStatus UInt32)

def lr11xx (config : Lr11xxConfig) : Driver where
  Output := Lr11xxTxCfg
  Entry := Lr11xxPaPwrCfg
  range freqInHz := if 1600000000 ≤ freqInHz then (-18, 13) else (-17, 22)
  path freqInHz power :=
    if 1600000000 ≤ freqInHz then
      ⟨-18, config.paHfCfgTable.entries,
        config.txDbmToUaRegModeDcdcHfVreg.entries⟩
    else if power ≤ 15 then
      ⟨-17, config.paLfLpCfgTable.entries,
        config.txDbmToUaRegModeDcdcLfLpVreg.entries⟩
    else
      ⟨-9, config.paLfHpCfgTable.entries,
        config.txDbmToUaRegModeDcdcLfHpVbat.entries⟩
  Uses freqInHz power out entry :=
    out.paSel = (if 1600000000 ≤ freqInHz then .hf
        else if power ≤ 15 then .lp else .hp)
      ∧ out.paDutyCycle = entry.paDutyCycle ∧ out.paHpSel = entry.paHpSel
      ∧ out.chipOutputPwrInDbmConfigured = entry.power
  getTxCfg freqInHz offset requested :=
    ralLr11xxBspGetTxCfg config offset freqInHz requested
  expected := Lr11xxTxCfg.chipOutputPwrInDbmExpected
  consumption := ralLr11xxBspGetInstantaneousTxPowerConsumption config

def lr20xx (config : Lr20xxConfig) : Driver where
  Output := Lr20xxTxCfg
  Entry := Lr20xxPaPwrCfg
  range freqInHz := if 1500000000 ≤ freqInHz then (-17, 12) else (-10, 22)
  path freqInHz _ :=
    if 1500000000 ≤ freqInHz then
      ⟨-17, config.paHfCfgTable.entries,
        config.txDbmToUaRegModeDcdcHfVreg.entries⟩
    else
      ⟨-10, config.paLfCfgTable.entries,
        config.txDbmToUaRegModeDcdcLfVreg.entries⟩
  Uses freqInHz _ out entry :=
    (if 1500000000 ≤ freqInHz then
        out.paSel = .hf ∧ out.paHfDutyCycle = entry.paDutyCycle
      else
        out.paSel = .lf ∧ out.paLfDutyCycle = entry.paDutyCycle
          ∧ out.paLfSlices = entry.paLfSlices)
      ∧ out.chipOutputHalfPwrInDbmConfigured = entry.halfPower
  getTxCfg freqInHz offset requested :=
    ralLr20xxBspGetTxCfg config offset freqInHz requested
  expected := Lr20xxTxCfg.chipOutputPwrInDbmExpected
  consumption := ralLr20xxBspGetInstantaneousTxPowerConsumption config

def sx126x {chip : Sx126xChip} (config : Sx126xConfig chip) : Driver where
  Output := Sx126xTxCfg
  Entry := Sx126xPaPwrCfg
  range _ := (chip.minOutputPower, chip.maxOutputPower)
  path _ _ :=
    ⟨chip.minOutputPower, config.paCfgTable.entries,
      match chip with
      | .sx1261 => ralSx126xConvertTxDbmToUaRegModeDcdcLp
      | .sx1262 | .sx1268 => ralSx126xConvertTxDbmToUaRegModeDcdcHp⟩
  Uses _ _ out entry :=
    out.paDutyCycle = entry.paDutyCycle ∧ out.hpMax = entry.hpMax
      ∧ out.chipOutputPwrInDbmConfigured = entry.power
  getTxCfg _ offset requested := ralSx126xBspGetTxCfg config offset requested
  expected := Sx126xTxCfg.chipOutputPwrInDbmExpected
  consumption := ralSx126xBspGetInstantaneousTxPowerConsumption

inductive Board where
  | lr11xx (config : Lr11xxConfig)
  | lr20xx (config : Lr20xxConfig)
  | sx126x (chip : Sx126xChip) (config : Sx126xConfig chip)

def driver : Board → Driver
  | .lr11xx config => lr11xx config
  | .lr20xx config => lr20xx config
  | .sx126x _ config => sx126x config

/-- A power clamped to a range, in the integers. -/
def clampTo (range : Int × Int) (power : Int) : Int :=
  max range.1 (min range.2 power)

/-- The output is the one for `power`, and the estimate for it finds the entry
    for the same power. -/
structure Configured (D : Driver) (freqInHz : Nat) (power : Int)
    (out : D.Output) : Prop where
  expected : D.expected out = power
  entry : ∃ e, entryAt (D.path freqInHz power).table
      (power - (D.path freqInHz power).first) = some e
    ∧ D.Uses freqInHz power out e
  consumption : ∃ ua, D.consumption out .dcdc = some (.ok ua)
    ∧ entryAt (D.path freqInHz power).consumption
      (power - (D.path freqInHz power).first) = some ua

/-- A request is answered with the output for the clamped sum. -/
def Clamps (D : Driver) (freqInHz : Nat) (offset requested : Int8) : Prop :=
  ∃ out, D.getTxCfg freqInHz offset requested = some out
    ∧ Configured D freqInHz
      (clampTo (D.range freqInHz) (requested.toInt + offset.toInt)) out

/-- Two requests are, and the larger one does not get less. -/
structure ClampsPair (D : Driver) (freqInHz : Nat)
    (offset requested requested' : Int8) : Prop where
  first : Clamps D freqInHz offset requested
  second : Clamps D freqInHz offset requested'
  monotone : requested ≤ requested' → ∀ out out',
    D.getTxCfg freqInHz offset requested = some out →
    D.getTxCfg freqInHz offset requested' = some out' →
    D.expected out ≤ D.expected out'

/-! ## The sum on its way to the clamp -/

theorem clampTo_of_bounds {lo hi : Int} (power : Int) (h : lo ≤ hi) :
    lo ≤ clampTo (lo, hi) power ∧ clampTo (lo, hi) power ≤ hi := by
  simp only [clampTo]
  omega

theorem clampTo_mono (range : Int × Int) {power power' : Int}
    (h : power ≤ power') : clampTo range power ≤ clampTo range power' := by
  simp only [clampTo]
  omega

theorem CLAMP_eq {lo hi : Int} (h : lo ≤ hi) (power : Int) :
    CLAMP power lo hi = clampTo (lo, hi) power := by
  simp only [CLAMP, clampTo]
  split <;> omega

theorem lr20xxBounded_eq {lo hi : Int} (h : lo ≤ hi) (power : Int) :
    lr20xxBounded power lo hi = clampTo (lo, hi) power := by
  simp only [lr20xxBounded, clampTo]
  split <;> [skip; split] <;> omega

theorem sx126xClamped_eq {lo hi : Int} (h : lo ≤ hi) (power : Int) :
    sx126xClamped power lo hi = clampTo (lo, hi) power := by
  simp only [sx126xClamped, clampTo]
  split <;> split <;> omega

/-- What fits `int8_t` stays. -/
theorem int8_eq {n : Int} (h : -128 ≤ n ∧ n ≤ 127) : int8 n = n :=
  Int.bmod_eq_of_le (by omega) (by omega)

/-- The sum of two `int8_t` values fits `int16_t`. -/
theorem powerSum_eq (offset requested : Int8) :
    powerSum offset requested = requested.toInt + offset.toInt
      ∧ -256 ≤ requested.toInt + offset.toInt
      ∧ requested.toInt + offset.toInt ≤ 254 := by
  have h1 := requested.le_toInt
  have h2 := requested.toInt_lt
  have h3 := offset.le_toInt
  have h4 := offset.toInt_lt
  refine ⟨?_, by omega, by omega⟩
  rw [powerSum, radioUtilitiesGetTxPowerOffset, Int8.toInt8_toUInt8]
  exact Int.bmod_eq_of_le (by omega) (by omega)

/-- **A SUM THAT IS CUT IS CLAMPED TO THE WRONG END**, or to no end at all. -/
theorem clampTo_int8_iff {lo hi n : Int} (hlo : -128 ≤ lo ∧ lo < 0)
    (hhi : 0 ≤ hi ∧ hi ≤ 127) (hn : -256 ≤ n ∧ n ≤ 254) :
    clampTo (lo, hi) (int8 n) = clampTo (lo, hi) n ↔ -128 ≤ n ∧ n ≤ 127 := by
  constructor
  · intro h
    rw [int8, Int.bmod_def] at h
    simp only [clampTo] at h
    split at h <;> omega
  · intro h
    rw [int8_eq h]

/-! ## What a driver does with a sum that arrives -/

/-- There is an entry for each power of a range. -/
theorem entryAt_some {α : Type} {entries : List α} {n : Nat}
    (hn : n ≤ entries.length) (index : Int) (h0 : 0 ≤ index) (h1 : index < n) :
    ∃ e, entryAt entries index = some e := by
  have hlt : index.toNat < entries.length := by omega
  refine ⟨entries[index.toNat], ?_⟩
  rw [entryAt, if_pos h0, List.getElem?_eq_getElem hlt]

/-- Within the range the estimate looks at the entry for the power. -/
theorem consumptionIndex_eq {lo hi offset power : Int} (hlo : lo ≤ power)
    (hhi : power ≤ hi) (h0 : 0 ≤ power + offset) (h1 : power + offset < 256) :
    consumptionIndex power lo hi offset = power + offset := by
  rw [consumptionIndex, if_neg (by omega), if_neg (by omega), uint8]
  omega

theorem lr20xxConsumptionIndex_eq {lo hi power : Int} (hlo : lo ≤ power)
    (hhi : power ≤ hi) (h1 : power - lo < 256) :
    lr20xxConsumptionIndex power lo hi = power - lo := by
  rw [lr20xxConsumptionIndex, if_neg (by omega), if_neg (by omega), uint8]
  omega

/-- An output made from the entry for a power of the path, if what is made of
    any entry is right. -/
theorem configured_of_path {D : Driver} {freqInHz : Nat} {power : Int}
    {path : Path D.Entry} {n : Nat} {make : D.Entry → D.Output}
    (hpath : D.path freqInHz power = path)
    (htable : n ≤ path.table.length) (hconsumption : n ≤ path.consumption.length)
    (hfirst : path.first ≤ power) (hlast : power < path.first + n)
    (hexpected : ∀ e, D.expected (make e) = power)
    (huses : ∀ e, D.Uses freqInHz power (make e) e)
    (hestimate : ∀ e, D.consumption (make e) .dcdc
      = (entryAt path.consumption (power - path.first)).map .ok) :
    ∃ out, (entryAt path.table (power - path.first)).map make = some out
      ∧ Configured D freqInHz power out := by
  obtain ⟨e, he⟩ := entryAt_some htable (power - path.first)
    (by omega) (by omega)
  obtain ⟨ua, hua⟩ := entryAt_some hconsumption (power - path.first)
    (by omega) (by omega)
  rw [he]
  refine ⟨make e, rfl, hexpected e, ?_, ?_⟩
  · rw [hpath]
    exact ⟨e, he, huses e⟩
  · rw [hpath]
    refine ⟨ua, ?_, hua⟩
    rw [hestimate e, hua]
    rfl

theorem lr11xx_configured (config : Lr11xxConfig) (freqInHz : Nat)
    (power : Int) :
    ∃ out, lr11xxGetTxCfg config (lr11xxPaType freqInHz) power = some out
      ∧ Configured (lr11xx config) freqInHz
        (clampTo ((lr11xx config).range freqInHz) power) out := by
  by_cases hfreq : 1600000000 ≤ freqInHz
  · have hrange : (lr11xx config).range freqInHz = (-18, 13) := if_pos hfreq
    have hbounds := clampTo_of_bounds power
      (show (-18 : Int) ≤ 13 by decide)
    rw [lr11xxPaType, if_pos hfreq, hrange, lr11xxGetTxCfg,
      LR11XX_HF_MIN_OUTPUT_POWER, LR11XX_HF_MAX_OUTPUT_POWER,
      CLAMP_eq (by omega)]
    refine configured_of_path (D := lr11xx config) (if_pos hfreq)
      config.paHfCfgTable.length_le config.txDbmToUaRegModeDcdcHfVreg.length_le
      hbounds.1 (by dsimp only; omega) (fun _ => rfl) ?_ ?_
    · intro e
      exact ⟨(if_pos hfreq).symm, rfl, rfl, rfl⟩
    · intro e
      show (entryAt _ (consumptionIndex (clampTo (-18, 13) power) (-18) 13 18)).map
        _ = _
      rw [consumptionIndex_eq hbounds.1 hbounds.2 (by omega) (by omega)]
      rfl
  · have hrange : (lr11xx config).range freqInHz = (-17, 22) := if_neg hfreq
    have hbounds := clampTo_of_bounds power
      (show (-17 : Int) ≤ 22 by decide)
    rw [lr11xxPaType, if_neg hfreq, hrange, lr11xxGetTxCfg,
      LR11XX_LF_LP_MIN_OUTPUT_POWER, LR11XX_LF_HP_MAX_OUTPUT_POWER,
      LR11XX_LF_LP_MAX_OUTPUT_POWER, CLAMP_eq (by omega)]
    by_cases hlow : clampTo (-17, 22) power ≤ 15
    · -- the low-power amplifier
      rw [if_pos hlow]
      refine configured_of_path (D := lr11xx config)
        ((if_neg hfreq).trans (if_pos hlow)) config.paLfLpCfgTable.length_le
        config.txDbmToUaRegModeDcdcLfLpVreg.length_le hbounds.1
        (by dsimp only; omega) (fun _ => rfl) ?_ ?_
      · intro e
        exact ⟨((if_neg hfreq).trans (if_pos hlow)).symm, rfl, rfl, rfl⟩
      · intro e
        show (entryAt _
          (consumptionIndex (clampTo (-17, 22) power) (-17) 15 17)).map _ = _
        rw [consumptionIndex_eq hbounds.1 hlow (by omega) (by omega)]
        rfl
    · -- the high-power one
      rw [if_neg hlow, LR11XX_LF_HP_MIN_OUTPUT_POWER]
      refine configured_of_path (D := lr11xx config)
        ((if_neg hfreq).trans (if_neg hlow)) config.paLfHpCfgTable.length_le
        config.txDbmToUaRegModeDcdcLfHpVbat.length_le (by dsimp only; omega)
        (by dsimp only; omega) (fun _ => rfl) ?_ ?_
      · intro e
        exact ⟨((if_neg hfreq).trans (if_neg hlow)).symm, rfl, rfl, rfl⟩
      · intro e
        show (entryAt _
          (consumptionIndex (clampTo (-17, 22) power) (-9) 22 9)).map _ = _
        rw [consumptionIndex_eq (by omega) hbounds.2 (by omega) (by omega)]
        rfl

theorem lr20xx_configured (config : Lr20xxConfig) (freqInHz : Nat)
    (power : Int) :
    ∃ out, lr20xxGetTxCfg config (lr20xxPaType freqInHz) power = some out
      ∧ Configured (lr20xx config) freqInHz
        (clampTo ((lr20xx config).range freqInHz) power) out := by
  by_cases hfreq : 1500000000 ≤ freqInHz
  · have hrange : (lr20xx config).range freqInHz = (-17, 12) := if_pos hfreq
    have hbounds := clampTo_of_bounds power
      (show (-17 : Int) ≤ 12 by decide)
    rw [lr20xxPaType, if_pos hfreq, hrange, lr20xxGetTxCfg,
      LR20XX_HF_MIN_OUTPUT_POWER, LR20XX_HF_MAX_OUTPUT_POWER,
      lr20xxBounded_eq (by omega)]
    refine configured_of_path (D := lr20xx config) (if_pos hfreq)
      config.paHfCfgTable.length_le config.txDbmToUaRegModeDcdcHfVreg.length_le
      hbounds.1 (by dsimp only; omega) (fun _ => rfl) ?_ ?_
    · intro e
      refine ⟨?_, rfl⟩
      rw [if_pos hfreq]
      exact ⟨rfl, rfl⟩
    · intro e
      show (entryAt _
        (lr20xxConsumptionIndex (clampTo (-17, 12) power) (-17) 12)).map _ = _
      rw [lr20xxConsumptionIndex_eq hbounds.1 hbounds.2 (by omega)]
  · have hrange : (lr20xx config).range freqInHz = (-10, 22) := if_neg hfreq
    have hbounds := clampTo_of_bounds power
      (show (-10 : Int) ≤ 22 by decide)
    rw [lr20xxPaType, if_neg hfreq, hrange, lr20xxGetTxCfg,
      LR20XX_LF_MIN_OUTPUT_POWER, LR20XX_LF_MAX_OUTPUT_POWER,
      lr20xxBounded_eq (by omega)]
    refine configured_of_path (D := lr20xx config) (if_neg hfreq)
      config.paLfCfgTable.length_le config.txDbmToUaRegModeDcdcLfVreg.length_le
      hbounds.1 (by dsimp only; omega) (fun _ => rfl) ?_ ?_
    · intro e
      refine ⟨?_, rfl⟩
      rw [if_neg hfreq]
      exact ⟨rfl, rfl, rfl⟩
    · intro e
      show (entryAt _
        (lr20xxConsumptionIndex (clampTo (-10, 22) power) (-10) 22)).map _ = _
      rw [lr20xxConsumptionIndex_eq hbounds.1 hbounds.2 (by omega)]

/-- The estimate of the SX126x for a power of the range of the chip. -/
theorem sx126x_estimate {chip : Sx126xChip} (config : Sx126xConfig chip)
    (freqInHz : Nat) {power : Int} {out : Sx126xTxCfg}
    (hsel : out.deviceSel = chip.deviceSel)
    (hexpected : out.chipOutputPwrInDbmExpected = power)
    (hlo : chip.minOutputPower ≤ power) (hhi : power ≤ chip.maxOutputPower) :
    ralSx126xBspGetInstantaneousTxPowerConsumption out .dcdc
      = (entryAt ((sx126x config).path freqInHz power).consumption
          (power - chip.minOutputPower)).map .ok := by
  rw [ralSx126xBspGetInstantaneousTxPowerConsumption, hsel, hexpected]
  cases chip with
  | sx1261 =>
      have h1 : -17 ≤ power := hlo
      have h2 : power ≤ 15 := hhi
      show (entryAt _ (consumptionIndex _ (-17) 15 17)).map _ = _
      rw [consumptionIndex_eq h1 h2 (by omega) (by omega)]
      rfl
  | sx1262 | sx1268 =>
      have h1 : -9 ≤ power := hlo
      have h2 : power ≤ 22 := hhi
      show (entryAt _ (consumptionIndex _ (-9) 22 9)).map _ = _
      rw [consumptionIndex_eq h1 h2 (by omega) (by omega)]
      rfl

/-- The tables of the estimate are as long as those of the device tree. -/
theorem sx126x_powers_le {chip : Sx126xChip} (config : Sx126xConfig chip)
    (freqInHz : Nat) (power : Int) :
    chip.powers ≤ ((sx126x config).path freqInHz power).consumption.length := by
  cases chip with
  | sx1261 =>
      show 33 ≤ ralSx126xConvertTxDbmToUaRegModeDcdcLp.length
      decide
  | sx1262 | sx1268 =>
      show 32 ≤ ralSx126xConvertTxDbmToUaRegModeDcdcHp.length
      decide

theorem sx126x_configured {chip : Sx126xChip} (config : Sx126xConfig chip)
    (freqInHz : Nat) (power : Int) :
    ∃ out, sx126xGetTxCfg config power = some out
      ∧ Configured (sx126x config) freqInHz
        (clampTo ((sx126x config).range freqInHz) power) out := by
  have hchip : chip.minOutputPower ≤ chip.maxOutputPower
      ∧ -128 ≤ chip.minOutputPower ∧ chip.maxOutputPower ≤ 127
      ∧ chip.maxOutputPower < chip.minOutputPower + chip.powers := by
    cases chip <;> decide
  have hbounds := clampTo_of_bounds power hchip.1
  have hkept : int8 (clampTo (chip.minOutputPower, chip.maxOutputPower) power)
      = clampTo (chip.minOutputPower, chip.maxOutputPower) power :=
    int8_eq (by omega)
  rw [sx126xGetTxCfg, sx126xClamped_eq hchip.1]
  refine configured_of_path (D := sx126x config) rfl config.paCfgTable.length_le
    (sx126x_powers_le config freqInHz power) hbounds.1
    (Int.lt_of_le_of_lt hbounds.2 hchip.2.2.2) (fun _ => hkept)
    (fun _ => ⟨rfl, rfl, rfl⟩) ?_
  intro e
  exact sx126x_estimate config freqInHz rfl hkept hbounds.1 hbounds.2

/-! ## Which requests are clamped -/

/-- The parameter that the sum is handed to has 8 bits. -/
def Board.narrows : Board → Prop
  | .lr11xx _ => True
  | .lr20xx _ => True
  | .sx126x _ _ => False

/-- The sum of the power requested and the offset fits `int8_t`. -/
def Fits (offset requested : Int8) : Prop :=
  -128 ≤ requested.toInt + offset.toInt ∧ requested.toInt + offset.toInt ≤ 127

/-- **THE OUTPUT IS RIGHT FOR THE SUM THAT ARRIVES**: what is clamped is the
    sum, cut to 8 bits where the driver narrows it. -/
theorem getTxCfg_configured (board : Board) (freqInHz : Nat)
    (offset requested : Int8) :
    ∃ out arrived, (driver board).getTxCfg freqInHz offset requested = some out
      ∧ Configured (driver board) freqInHz
        (clampTo ((driver board).range freqInHz) arrived) out
      ∧ ((board.narrows ∧ arrived = int8 (requested.toInt + offset.toInt))
        ∨ (¬ board.narrows ∧ arrived = requested.toInt + offset.toInt)) := by
  have hsum := (powerSum_eq offset requested).1
  cases board with
  | lr11xx config =>
      obtain ⟨out, hget, hout⟩ := lr11xx_configured config freqInHz
        (int8 (powerSum offset requested))
      rw [hsum] at hout
      exact ⟨out, _, hget, hout, Or.inl ⟨trivial, rfl⟩⟩
  | lr20xx config =>
      obtain ⟨out, hget, hout⟩ := lr20xx_configured config freqInHz
        (int8 (powerSum offset requested))
      rw [hsum] at hout
      exact ⟨out, _, hget, hout, Or.inl ⟨trivial, rfl⟩⟩
  | sx126x chip config =>
      obtain ⟨out, hget, hout⟩ := sx126x_configured config freqInHz
        (powerSum offset requested)
      rw [hsum] at hout
      exact ⟨out, _, hget, hout, Or.inr ⟨id, rfl⟩⟩

/-- The ranges contain 0 and lie in `int8_t`. -/
theorem range_bounds (board : Board) (freqInHz : Nat) :
    ∃ lo hi, (driver board).range freqInHz = (lo, hi) ∧ (-128 ≤ lo ∧ lo < 0)
      ∧ 0 ≤ hi ∧ hi ≤ 127 := by
  cases board with
  | lr11xx config =>
      by_cases hfreq : 1600000000 ≤ freqInHz
      · exact ⟨-18, 13, if_pos hfreq, by decide⟩
      · exact ⟨-17, 22, if_neg hfreq, by decide⟩
  | lr20xx config =>
      by_cases hfreq : 1500000000 ≤ freqInHz
      · exact ⟨-17, 12, if_pos hfreq, by decide⟩
      · exact ⟨-10, 22, if_neg hfreq, by decide⟩
  | sx126x chip config =>
      refine ⟨chip.minOutputPower, chip.maxOutputPower, rfl, ?_⟩
      cases chip <;> decide

/-- One request. -/
theorem clamps_iff (board : Board) (freqInHz : Nat) (offset requested : Int8) :
    Clamps (driver board) freqInHz offset requested
      ↔ (board.narrows → Fits offset requested) := by
  obtain ⟨out, arrived, hget, hout, harrived⟩ :=
    getTxCfg_configured board freqInHz offset requested
  have hsum := (powerSum_eq offset requested).2
  obtain ⟨lo, hi, hrange, hlo, hhi⟩ := range_bounds board freqInHz
  rw [Clamps]
  rw [hrange] at hout ⊢
  rcases harrived with ⟨hnarrows, rfl⟩ | ⟨hwide, rfl⟩
  · have hiff := clampTo_int8_iff hlo hhi hsum
    constructor
    · rintro ⟨out', hget', hout'⟩ _
      cases hget.symm.trans hget'
      exact hiff.mp (hout.expected.symm.trans hout'.expected)
    · intro hfits
      rw [hiff.mpr (hfits hnarrows)] at hout
      exact ⟨out, hget, hout⟩
  · constructor
    · intro _ hnarrows
      exact absurd hnarrows hwide
    · intro _
      exact ⟨out, hget, hout⟩

/-- **WHICH REQUESTS ARE CLAMPED**: on the SX126x all of them; on the LR11xx and
    the LR20xx exactly those whose sum with the offset fits `int8_t`. -/
theorem clampsPair_iff (board : Board) (freqInHz : Nat)
    (offset requested requested' : Int8) :
    ClampsPair (driver board) freqInHz offset requested requested'
      ↔ (board.narrows → Fits offset requested ∧ Fits offset requested') := by
  constructor
  · rintro ⟨hfirst, hsecond, _⟩ hnarrows
    exact ⟨(clamps_iff _ _ _ _).mp hfirst hnarrows,
      (clamps_iff _ _ _ _).mp hsecond hnarrows⟩
  · intro h
    have hfirst := (clamps_iff board freqInHz offset requested).mpr
      fun hnarrows => (h hnarrows).1
    have hsecond := (clamps_iff board freqInHz offset requested').mpr
      fun hnarrows => (h hnarrows).2
    refine ⟨hfirst, hsecond, ?_⟩
    -- both are the clamped sums, and clamping is monotone
    obtain ⟨o, ho, hout⟩ := hfirst
    obtain ⟨o', ho', hout'⟩ := hsecond
    intro hle out out' hget hget'
    cases ho.symm.trans hget
    cases ho'.symm.trans hget'
    rw [hout.expected, hout'.expected]
    have hint : requested.toInt ≤ requested'.toInt := Int8.le_iff_toInt_le.mp hle
    exact clampTo_mono _ (by omega)

/-- Tables of zeros. -/
def zeroLr11xxConfig : Lr11xxConfig where
  paRampTime := 0
  paLfLpCfgTable := ⟨List.replicate 33 ⟨0, 0, 0⟩, by decide⟩
  paLfHpCfgTable := ⟨List.replicate 32 ⟨0, 0, 0⟩, by decide⟩
  paHfCfgTable := ⟨List.replicate 32 ⟨0, 0, 0⟩, by decide⟩
  txDbmToUaRegModeDcdcLfLpVreg := ⟨List.replicate 33 0, by decide⟩
  txDbmToUaRegModeLdoLfLpVreg := ⟨List.replicate 33 0, by decide⟩
  txDbmToUaRegModeDcdcLfHpVbat := ⟨List.replicate 32 0, by decide⟩
  txDbmToUaRegModeLdoLfHpVbat := ⟨List.replicate 32 0, by decide⟩
  txDbmToUaRegModeDcdcHfVreg := ⟨List.replicate 32 0, by decide⟩

/-- **120 dBm AND AN OFFSET OF 10 GIVE -17 dBm** on the LR11xx at 868 MHz, less
    than 120 dBm give without the offset. -/
theorem large_sum_gives_minimum :
    ((driver (.lr11xx zeroLr11xxConfig)).getTxCfg 868000000 10 120).map
        (driver (.lr11xx zeroLr11xxConfig)).expected = some (-17)
      ∧ clampTo ((driver (.lr11xx zeroLr11xxConfig)).range 868000000)
          ((120 : Int8).toInt + (10 : Int8).toInt) = 22
      ∧ ¬ ClampsPair (driver (.lr11xx zeroLr11xxConfig)) 868000000 10 0 120 := by
  refine ⟨by decide, by decide, ?_⟩
  rintro ⟨_, ⟨out, hget, hout⟩, _⟩
  have hexpected := hout.expected
  cases hget
  exact absurd hexpected (by decide)

end TxPower
