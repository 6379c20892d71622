import UspZephyr.WrappingClockProofs

/-! # The clocks of the modem HAL

    `smtc_modem_hal_get_time_in_ms` is `k_uptime_get_32` and wraps every 49
    days; `smtc_modem_hal_get_time_in_s` divides the 64-bit uptime first and
    wraps after 136 years. -/

namespace ModemTime

open WrappingClock

/-- `k_uptime_get_32`, at an uptime in milliseconds. -/
def kUptimeGet32 (uptime : Nat) : UInt32 := reading uptime

/-- `k_uptime_seconds`. -/
def kUptimeSeconds (uptime : Nat) : UInt32 := reading (uptime / 1000)

/-- `smtc_modem_hal_get_time_in_s`. -/
def smtcModemHalGetTimeInS (uptime : Nat) : UInt32 := kUptimeSeconds uptime

/-- `smtc_modem_hal_get_time_in_ms`. -/
def smtcModemHalGetTimeInMs (uptime : Nat) : UInt32 := kUptimeGet32 uptime

@[simp] theorem smtcModemHalGetTimeInMs_toNat (uptime : Nat) :
    (smtcModemHalGetTimeInMs uptime).toNat = uptime % 4294967296 :=
  reading_toNat uptime

/-- The seconds do not go back for 136 years. -/
theorem smtcModemHalGetTimeInS_le {t u : Nat} (h : t ≤ u)
    (hu : u / 1000 < 4294967296) :
    smtcModemHalGetTimeInS t ≤ smtcModemHalGetTimeInS u := by
  have hle : t / 1000 ≤ u / 1000 := Nat.div_le_div_right h
  rw [UInt32.le_iff_toNat_le, smtcModemHalGetTimeInS, smtcModemHalGetTimeInS,
    kUptimeSeconds, kUptimeSeconds, reading_toNat, reading_toNat,
    Nat.mod_eq_of_lt hu, Nat.mod_eq_of_lt (Nat.lt_of_le_of_lt hle hu)]
  exact hle

end ModemTime
