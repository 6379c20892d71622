import UspZephyr.TxPowerProofs

/-! # The RX consumption of the LR11xx and the LR20xx

    `ral_*_bsp_get_instantaneous_*_rx_power_consumption` estimate the current of
    a reception, more of it with the RX boost.  Three of them choose between two
    constants; the LoRa estimate of the LR20xx chooses one of eight device-tree
    tables and an index for the bandwidth.

    `respectsBoost_iff` says for which tables that choice is the one asked for:
    the boosted and the other table of each pair are swapped. -/

namespace RxConsumption

open TxPower

/-! ## Two constants -/

def LR11XX_GFSK_RX_CONSUMPTION_DCDC : UInt32 := 5400
def LR11XX_GFSK_RX_BOOSTED_CONSUMPTION_DCDC : UInt32 := 7500
def LR11XX_GFSK_RX_CONSUMPTION_LDO : UInt32 := 5400
def LR11XX_GFSK_RX_BOOSTED_CONSUMPTION_LDO : UInt32 := 7500
def LR11XX_LORA_RX_CONSUMPTION_DCDC : UInt32 := 5700
def LR11XX_LORA_RX_BOOSTED_CONSUMPTION_DCDC : UInt32 := 7800
def LR11XX_LORA_RX_CONSUMPTION_LDO : UInt32 := 5700
def LR11XX_LORA_RX_BOOSTED_CONSUMPTION_LDO : UInt32 := 7800
def LR20XX_GFSK_RX_CONSUMPTION_DCDC : UInt32 := 5410
def LR20XX_GFSK_RX_BOOSTED_CONSUMPTION_DCDC : UInt32 := 6970
def LR20XX_GFSK_RX_CONSUMPTION_LDO : UInt32 := 9500
def LR20XX_GFSK_RX_BOOSTED_CONSUMPTION_LDO : UInt32 := 11730

/-- An estimate; `none` when it reads outside a table. -/
abbrev Estimate : Type := Option (Except RalStatus UInt32)

/-- A constant for each regulator mode, with and without boost. -/
def constantEstimate (dcdc dcdcBoosted ldo ldoBoosted : UInt32)
    (radioRegMode : RegMode) (rxBoosted : Bool) : Estimate :=
  if radioRegMode = .dcdc then
    some (.ok (if rxBoosted then dcdcBoosted else dcdc))
  else some (.ok (if rxBoosted then ldoBoosted else ldo))

/-- `ral_lr11xx_bsp_get_instantaneous_gfsk_rx_power_consumption`. -/
def ralLr11xxBspGetInstantaneousGfskRxPowerConsumption :
    RegMode → Bool → Estimate :=
  constantEstimate LR11XX_GFSK_RX_CONSUMPTION_DCDC
    LR11XX_GFSK_RX_BOOSTED_CONSUMPTION_DCDC LR11XX_GFSK_RX_CONSUMPTION_LDO
    LR11XX_GFSK_RX_BOOSTED_CONSUMPTION_LDO

/-- `ral_lr11xx_bsp_get_instantaneous_lora_rx_power_consumption`. -/
def ralLr11xxBspGetInstantaneousLoraRxPowerConsumption :
    RegMode → Bool → Estimate :=
  constantEstimate LR11XX_LORA_RX_CONSUMPTION_DCDC
    LR11XX_LORA_RX_BOOSTED_CONSUMPTION_DCDC LR11XX_LORA_RX_CONSUMPTION_LDO
    LR11XX_LORA_RX_BOOSTED_CONSUMPTION_LDO

/-- `ral_lr20xx_bsp_get_instantaneous_gfsk_rx_power_consumption`. -/
def ralLr20xxBspGetInstantaneousGfskRxPowerConsumption :
    RegMode → Bool → Estimate :=
  constantEstimate LR20XX_GFSK_RX_CONSUMPTION_DCDC
    LR20XX_GFSK_RX_BOOSTED_CONSUMPTION_DCDC LR20XX_GFSK_RX_CONSUMPTION_LDO
    LR20XX_GFSK_RX_BOOSTED_CONSUMPTION_LDO

/-! ## Eight tables -/

/-- The values of the members of `ral_lora_bw_t` that the driver names. -/
structure LoraBw where
  bw125Khz : Nat
  bw250Khz : Nat
  bw400Khz : Nat
  bw500Khz : Nat
  bw800Khz : Nat
  bw1000Khz : Nat

/-- `lr20xx_radio_common_rx_path_t`. -/
inductive RxPath where
  | lf
  | hf
  deriving DecidableEq, Repr

/-- The fields of `struct lr20xx_hal_context_cfg_t` that are read here. -/
structure RxConfig where
  rxBwToUaRegModeDcdcLfVreg : Vector UInt32 6
  rxBwToUaRegModeDcdcHfVreg : Vector UInt32 6
  rxBwToUaRegModeDcdcLfVregBoosted : Vector UInt32 6
  rxBwToUaRegModeDcdcHfVregBoosted : Vector UInt32 6
  rxBwToUaRegModeLdoLfVreg : Vector UInt32 6
  rxBwToUaRegModeLdoHfVreg : Vector UInt32 6
  rxBwToUaRegModeLdoLfVregBoosted : Vector UInt32 6
  rxBwToUaRegModeLdoHfVregBoosted : Vector UInt32 6

/-- The path and the index for a bandwidth.  A bandwidth that is not named keeps
    the initial values. -/
def selected (B : LoraBw) (bw : Nat) : RxPath × Nat :=
  if bw ≤ B.bw125Khz then (.lf, 0)
  else if bw = B.bw250Khz then (.lf, 1)
  else if bw = B.bw400Khz then (.lf, 2)
  else if bw = B.bw500Khz then (.lf, 3)
  else if bw = B.bw800Khz then (.hf, 4)
  else if B.bw1000Khz ≤ bw then (.hf, 5)
  else (.lf, 0)

/-- `ral_lr20xx_bsp_get_instantaneous_lora_rx_power_consumption`. -/
def ralLr20xxBspGetInstantaneousLoraRxPowerConsumption (B : LoraBw)
    (config : RxConfig) (radioRegMode : RegMode) (bw : Nat) (rxBoosted : Bool) :
    Estimate :=
  let (rfi, index) := selected B bw
  if radioRegMode = .dcdc then
    if rfi = .lf then
      (if rxBoosted then config.rxBwToUaRegModeDcdcLfVreg[index]?
        else config.rxBwToUaRegModeDcdcLfVregBoosted[index]?).map .ok
    else
      (if rxBoosted then config.rxBwToUaRegModeDcdcHfVreg[index]?
        else config.rxBwToUaRegModeDcdcHfVregBoosted[index]?).map .ok
  else
    if rfi = .lf then
      (if rxBoosted then config.rxBwToUaRegModeLdoLfVreg[index]?
        else config.rxBwToUaRegModeLdoLfVregBoosted[index]?).map .ok
    else
      (if rxBoosted then config.rxBwToUaRegModeLdoHfVreg[index]?
        else config.rxBwToUaRegModeLdoHfVregBoosted[index]?).map .ok

/-! ## What is asked of the estimates -/

/-- The table that the device tree has for a mode, a path and a boost. -/
def RxConfig.table (config : RxConfig) : RegMode → RxPath → Bool →
    Vector UInt32 6
  | .dcdc, .lf, false => config.rxBwToUaRegModeDcdcLfVreg
  | .dcdc, .hf, false => config.rxBwToUaRegModeDcdcHfVreg
  | .dcdc, .lf, true => config.rxBwToUaRegModeDcdcLfVregBoosted
  | .dcdc, .hf, true => config.rxBwToUaRegModeDcdcHfVregBoosted
  | .ldo, .lf, false => config.rxBwToUaRegModeLdoLfVreg
  | .ldo, .hf, false => config.rxBwToUaRegModeLdoHfVreg
  | .ldo, .lf, true => config.rxBwToUaRegModeLdoLfVregBoosted
  | .ldo, .hf, true => config.rxBwToUaRegModeLdoHfVregBoosted

/-- Each entry of the boosted table is at least the one beside it. -/
def AtLeast (plain boosted : Vector UInt32 6) : Prop :=
  ∀ i (_ : i < 6), plain[i] ≤ boosted[i]

instance (plain boosted : Vector UInt32 6) : Decidable (AtLeast plain boosted) :=
  inferInstanceAs (Decidable (∀ i (_ : i < 6), _))

/-- In every pair of tables. -/
def RxConfig.BoostCosts (config : RxConfig) : Prop :=
  ∀ radioRegMode rfi,
    AtLeast (config.table radioRegMode rfi false)
      (config.table radioRegMode rfi true)

/-- With boost the estimate is at least the one without. -/
def GivesOrder (estimate : Bool → Estimate) : Prop :=
  ∃ on off, estimate true = some (.ok on) ∧ estimate false = some (.ok off)
    ∧ off ≤ on

/-- The estimate with boost is an entry of the boosted table for the path and the
    mode, the one without is the entry beside it, and where the boost costs, it
    costs in the estimate too, as it does in those of constants. -/
structure RespectsBoost (B : LoraBw) (config : RxConfig) (radioRegMode : RegMode)
    (bw : Nat) : Prop where
  entry : ∃ (i : Nat) (on off : UInt32),
    (config.table radioRegMode (selected B bw).1 true)[i]? = some on
      ∧ (config.table radioRegMode (selected B bw).1 false)[i]? = some off
      ∧ ralLr20xxBspGetInstantaneousLoraRxPowerConsumption B config radioRegMode
        bw true = some (.ok on)
      ∧ ralLr20xxBspGetInstantaneousLoraRxPowerConsumption B config radioRegMode
        bw false = some (.ok off)
  ordered : config.BoostCosts →
    GivesOrder (ralLr20xxBspGetInstantaneousLoraRxPowerConsumption B config
      radioRegMode bw)
  gfsk : GivesOrder
    (ralLr20xxBspGetInstantaneousGfskRxPowerConsumption radioRegMode)
  lr11xxGfsk : GivesOrder
    (ralLr11xxBspGetInstantaneousGfskRxPowerConsumption radioRegMode)
  lr11xxLora : GivesOrder
    (ralLr11xxBspGetInstantaneousLoraRxPowerConsumption radioRegMode)

/-- The two entries at an index occur the other way round in the two tables. -/
def OccursSwapped (plain boosted : Vector UInt32 6) (index : Nat) : Prop :=
  ∃ i, i < 6 ∧ plain[i]? = boosted[index]? ∧ boosted[i]? = plain[index]?

/-! ## What they give -/

/-- Constants in order give estimates in order. -/
theorem constantEstimate_givesOrder {dcdc dcdcBoosted ldo ldoBoosted : UInt32}
    (hdcdc : dcdc ≤ dcdcBoosted) (hldo : ldo ≤ ldoBoosted)
    (radioRegMode : RegMode) :
    GivesOrder (constantEstimate dcdc dcdcBoosted ldo ldoBoosted radioRegMode) := by
  cases radioRegMode with
  | dcdc => exact ⟨_, _, rfl, rfl, hdcdc⟩
  | ldo => exact ⟨_, _, rfl, rfl, hldo⟩

/-- No index leaves the tables. -/
theorem selected_lt (B : LoraBw) (bw : Nat) : (selected B bw).2 < 6 := by
  rw [selected]
  repeat' split
  all_goals decide

/-- **EACH PAIR OF TABLES IS SWAPPED**: with boost the estimate reads the table
    without, and the other way round. -/
theorem loraRx_eq (B : LoraBw) (config : RxConfig) (radioRegMode : RegMode)
    (bw : Nat) (rxBoosted : Bool) :
    ralLr20xxBspGetInstantaneousLoraRxPowerConsumption B config radioRegMode bw
        rxBoosted
      = (config.table radioRegMode (selected B bw).1 (!rxBoosted))[(selected B
          bw).2]?.map .ok := by
  rw [ralLr20xxBspGetInstantaneousLoraRxPowerConsumption]
  rcases selected B bw with ⟨rfi, index⟩
  cases radioRegMode with
  | dcdc => cases rfi <;> cases rxBoosted <;> rfl
  | ldo => cases rfi <;> cases rxBoosted <;> rfl

/-- The estimate is an entry of the other table. -/
theorem loraRx_some_iff (B : LoraBw) (config : RxConfig) (radioRegMode : RegMode)
    (bw : Nat) (rxBoosted : Bool) (ua : UInt32) :
    ralLr20xxBspGetInstantaneousLoraRxPowerConsumption B config radioRegMode bw
        rxBoosted = some (.ok ua)
      ↔ (config.table radioRegMode (selected B bw).1 (!rxBoosted))[(selected B
          bw).2]? = some ua := by
  rw [loraRx_eq, Option.map_eq_some_iff]
  constructor
  · rintro ⟨_, hentry, ⟨⟩⟩
    exact hentry
  · intro hentry
    exact ⟨ua, hentry, rfl⟩

/-- Where the boost costs, the entries that occur swapped are the equal ones. -/
theorem occursSwapped_iff {plain boosted : Vector UInt32 6} {index : Nat}
    (hindex : index < 6) (hle : AtLeast plain boosted) :
    OccursSwapped plain boosted index ↔ plain[index]? = boosted[index]? := by
  constructor
  · rintro ⟨i, hi, hplain, hboosted⟩
    rw [Vector.getElem?_eq_getElem hi, Vector.getElem?_eq_getElem hindex] at hplain
    rw [Vector.getElem?_eq_getElem hi, Vector.getElem?_eq_getElem hindex] at hboosted
    rw [Vector.getElem?_eq_getElem hindex, Vector.getElem?_eq_getElem hindex]
    refine congrArg some (UInt32.le_antisymm (hle index hindex) ?_)
    rw [← Option.some.inj hplain, ← Option.some.inj hboosted]
    exact hle i hi
  · intro heq
    exact ⟨index, hindex, heq, heq.symm⟩

/-- Entries that occur swapped keep the order. -/
theorem OccursSwapped.givesOrder {B : LoraBw} {config : RxConfig}
    {radioRegMode : RegMode} {bw : Nat}
    (h : OccursSwapped (config.table radioRegMode (selected B bw).1 false)
      (config.table radioRegMode (selected B bw).1 true) (selected B bw).2)
    (hcosts : config.BoostCosts) :
    GivesOrder (ralLr20xxBspGetInstantaneousLoraRxPowerConsumption B config
      radioRegMode bw) := by
  have hindex := selected_lt B bw
  have heq := (occursSwapped_iff hindex (hcosts _ _)).mp h
  rw [Vector.getElem?_eq_getElem hindex] at heq
  refine ⟨_, _, (loraRx_some_iff ..).mpr (Vector.getElem?_eq_getElem hindex),
    (loraRx_some_iff ..).mpr heq.symm, UInt32.le_refl _⟩

/-- What the estimate has to find in the tables. -/
theorem respectsBoost_iff_swapped (B : LoraBw) (config : RxConfig)
    (radioRegMode : RegMode) (bw : Nat) :
    RespectsBoost B config radioRegMode bw
      ↔ OccursSwapped (config.table radioRegMode (selected B bw).1 false)
        (config.table radioRegMode (selected B bw).1 true) (selected B bw).2 := by
  constructor
  · rintro ⟨⟨i, on, off, hboosted, hplain, hon, hoff⟩, -, -, -, -⟩
    refine ⟨i, (Vector.getElem?_eq_some_iff.mp hplain).1, ?_, ?_⟩
    · exact hplain.trans ((loraRx_some_iff ..).mp hoff).symm
    · exact hboosted.trans ((loraRx_some_iff ..).mp hon).symm
  · intro h
    refine ⟨?_, h.givesOrder, constantEstimate_givesOrder (by decide) (by decide) _,
      constantEstimate_givesOrder (by decide) (by decide) _,
      constantEstimate_givesOrder (by decide) (by decide) _⟩
    obtain ⟨i, hi, hplain, hboosted⟩ := h
    rw [Vector.getElem?_eq_getElem hi] at hplain hboosted
    exact ⟨i, _, _, Vector.getElem?_eq_getElem hi, Vector.getElem?_eq_getElem hi,
      (loraRx_some_iff ..).mpr hboosted.symm, (loraRx_some_iff ..).mpr hplain.symm⟩

/-- **WHERE THE SWAP DOES NOT SHOW**: the estimate respects the boost exactly
    where the two entries it chooses from occur the other way round in their
    tables; where the boost costs, exactly where they are equal. -/
theorem respectsBoost_iff (B : LoraBw) (config : RxConfig)
    (radioRegMode : RegMode) (bw : Nat) :
    (RespectsBoost B config radioRegMode bw
        ↔ OccursSwapped (config.table radioRegMode (selected B bw).1 false)
          (config.table radioRegMode (selected B bw).1 true) (selected B bw).2)
      ∧ (config.BoostCosts →
        (RespectsBoost B config radioRegMode bw
          ↔ (config.table radioRegMode (selected B bw).1 false)[(selected B bw).2]?
            = (config.table radioRegMode (selected B bw).1 true)[(selected B
                bw).2]?)) := by
  have hiff := respectsBoost_iff_swapped B config radioRegMode bw
  refine ⟨hiff, ?_⟩
  intro hcosts
  exact hiff.trans (occursSwapped_iff (selected_lt B bw) (hcosts _ _))

/-- The tables of the shield `semtech_wio_lr20xx`. -/
def semtechWioLr20xx : RxConfig where
  rxBwToUaRegModeDcdcLfVreg := #v[5700, 5790, 6320, 6140, 6840, 6600]
  rxBwToUaRegModeDcdcHfVreg := #v[6400, 6510, 7040, 6860, 6880, 7350]
  rxBwToUaRegModeDcdcLfVregBoosted := #v[6920, 6990, 7530, 7370, 8160, 7820]
  rxBwToUaRegModeDcdcHfVregBoosted := #v[6740, 6850, 7130, 7180, 8010, 7690]
  rxBwToUaRegModeLdoLfVreg := #v[9420, 9580, 10580, 10240, 11770, 11130]
  rxBwToUaRegModeLdoHfVreg := #v[10760, 10890, 11870, 11640, 13130, 12500]
  rxBwToUaRegModeLdoLfVregBoosted :=
    #v[11670, 11710, 12880, 12560, 14090, 13500]
  rxBwToUaRegModeLdoHfVregBoosted :=
    #v[11410, 11570, 12590, 12280, 13720, 13180]

theorem semtechWioLr20xx_boostCosts : semtechWioLr20xx.BoostCosts := by
  intro radioRegMode rfi
  cases radioRegMode with
  | dcdc => cases rfi <;> decide
  | ldo => cases rfi <;> decide

/-- **THE BOOST LOWERS THE ESTIMATE** with the tables of the shield, whatever the
    numbers of the bandwidths: 5700 uA with it and 6920 uA without, at 125 kHz
    and with the DC-DC converter. -/
theorem boost_lowers_estimate :
    semtechWioLr20xx.BoostCosts
      ∧ ∀ B : LoraBw,
        ralLr20xxBspGetInstantaneousLoraRxPowerConsumption B semtechWioLr20xx .dcdc
            B.bw125Khz true = some (.ok 5700)
          ∧ ralLr20xxBspGetInstantaneousLoraRxPowerConsumption B semtechWioLr20xx
            .dcdc B.bw125Khz false = some (.ok 6920)
          ∧ ¬ RespectsBoost B semtechWioLr20xx .dcdc B.bw125Khz := by
  refine ⟨semtechWioLr20xx_boostCosts, ?_⟩
  intro B
  have hselected : selected B B.bw125Khz = (.lf, 0) := if_pos (Nat.le_refl _)
  have hon : ralLr20xxBspGetInstantaneousLoraRxPowerConsumption B semtechWioLr20xx
      .dcdc B.bw125Khz true = some (.ok 5700) := by
    rw [loraRx_some_iff, hselected]
    rfl
  have hoff : ralLr20xxBspGetInstantaneousLoraRxPowerConsumption B
      semtechWioLr20xx .dcdc B.bw125Khz false = some (.ok 6920) := by
    rw [loraRx_some_iff, hselected]
    rfl
  refine ⟨hon, hoff, ?_⟩
  intro h
  obtain ⟨on, off, hon', hoff', hle⟩ := h.ordered semtechWioLr20xx_boostCosts
  cases hon.symm.trans hon'
  cases hoff.symm.trans hoff'
  exact absurd hle (by decide)

end RxConsumption
