import Mathlib.Data.List.Lex
import UspZephyr.CalendarProofs
import UspZephyr.ModemTimeProofs

/-! # The timestamps of the log

    Before network time is known a timestamp is the GPS epoch and the time since
    boot, taken from the millisecond counter of the HAL.  The counter is made
    64 bits wide after it has wrapped, so that the log goes back in time every
    49 days; `neverGoBack_iff` says between which calls it does.  What the
    formatter prints of such timestamps is always in their order
    (`customTimestampFormatter64_inOrder`). -/

namespace LogTimestamp

open Calendar ModemTime WrappingClock

def UNIX_GPS_EPOCH_OFFSET : Nat := 315964800

/-! ## `log_timestamp` -/

/-- What `smtc_modem_get_lorawan_mac_time` gives. -/
structure MacTime where
  gpsTimeS : UInt32
  gpsFractionalS : UInt32

/-- `log_timestamp`, with `CONFIG_LOG_TIMESTAMP_64BIT`; there is no MAC time if
    the modem has none, or if it is not built in. -/
def logTimestamp64 (macTime : Option MacTime) (uptime : Nat) : UInt64 :=
  match macTime with
  | some mac =>
      (mac.gpsTimeS.toUInt64 + UInt64.ofNat UNIX_GPS_EPOCH_OFFSET) * 1000
        + mac.gpsFractionalS.toUInt64
  | none =>
      UInt64.ofNat UNIX_GPS_EPOCH_OFFSET * 1000
        + (smtcModemHalGetTimeInMs uptime).toUInt64

/-- `log_timestamp`, without. -/
def logTimestamp32 (macTime : Option MacTime) (uptime : Nat) : UInt32 :=
  match macTime with
  | some mac => mac.gpsTimeS + UInt32.ofNat UNIX_GPS_EPOCH_OFFSET
  | none =>
      UInt32.ofNat UNIX_GPS_EPOCH_OFFSET + smtcModemHalGetTimeInMs uptime / 1000

@[simp] theorem logTimestamp64_none_toNat (uptime : Nat) :
    (logTimestamp64 none uptime).toNat
      = 315964800000 + uptime % 4294967296 := by
  have hbase : (UInt64.ofNat UNIX_GPS_EPOCH_OFFSET * 1000).toNat = 315964800000 := by
    decide
  rw [logTimestamp64, UInt64.toNat_add, hbase, UInt32.toNat_toUInt64,
    smtcModemHalGetTimeInMs_toNat]
  omega

@[simp] theorem logTimestamp32_none_toNat (uptime : Nat) :
    (logTimestamp32 none uptime).toNat
      = 315964800 + uptime % 4294967296 / 1000 := by
  have hbase : (UInt32.ofNat UNIX_GPS_EPOCH_OFFSET).toNat = 315964800 := by decide
  have hthousand : (1000 : UInt32).toNat = 1000 := by decide
  rw [logTimestamp32, UInt32.toNat_add, hbase, UInt32.toNat_div, hthousand,
    smtcModemHalGetTimeInMs_toNat]
  omega

/-- A later timestamp is earlier only if the counter has wrapped. -/
theorem logTimestamp64_le_iff {t u : Nat} (h : t ≤ u) :
    logTimestamp64 none t ≤ logTimestamp64 none u ↔ ¬ Wraps t u := by
  rw [← reading_lt_iff h, UInt64.le_iff_toNat_le, UInt32.lt_iff_toNat_lt,
    logTimestamp64_none_toNat, logTimestamp64_none_toNat, reading_toNat, reading_toNat]
  omega

/-- Timestamps in seconds do not show a wrap within one second. -/
theorem logTimestamp32_le_iff {t u : Nat} (h : t ≤ u) :
    logTimestamp32 none t ≤ logTimestamp32 none u
      ↔ (Wraps t u → t % 4294967296 / 1000 = u % 4294967296 / 1000) := by
  rw [← reading_lt_iff h, UInt32.le_iff_toNat_le, UInt32.lt_iff_toNat_lt,
    logTimestamp32_none_toNat, logTimestamp32_none_toNat, reading_toNat, reading_toNat]
  omega

/-! ## `custom_timestamp_formatter` -/

/-- What the printer is called with. -/
structure PrinterCall where
  format : String
  args : List Nat
  deriving DecidableEq, Repr

def secondsOf (timestamp : UInt64) : UInt32 := (timestamp / 1000).toUInt32

def millisecondsOf (timestamp : UInt64) : UInt32 := (timestamp % 1000).toUInt32

/-- The arguments that both formatters take from `timeinfo`. -/
def dateArgs (timeinfo : Tm) : List Nat :=
  [timeinfo.tmYear + 1900, timeinfo.tmMon + 1, timeinfo.tmMday, timeinfo.tmHour,
    timeinfo.tmMin, timeinfo.tmSec]

/-- `custom_timestamp_formatter`, with `CONFIG_LOG_TIMESTAMP_64BIT`. -/
def customTimestampFormatter64 (timestamp : UInt64) : PrinterCall :=
  let seconds := secondsOf timestamp
  let milliseconds := millisecondsOf timestamp
  match gmtime seconds.toNat with
  | some timeinfo =>
      { format := "[%04d-%02d-%02d %02d:%02d:%02d.%03u] "
        args := dateArgs timeinfo ++ [milliseconds.toNat] }
  | none =>
      { format := "[%u.%03u] "
        args := [seconds.toNat, milliseconds.toNat] }

/-- `custom_timestamp_formatter`, without. -/
def customTimestampFormatter32 (timestamp : UInt32) : PrinterCall :=
  match gmtime timestamp.toNat with
  | some timeinfo =>
      { format := "[%04d-%02d-%02d %02d:%02d:%02d] "
        args := dateArgs timeinfo }
  | none =>
      { format := "[%u.%03u] "
        args := [timestamp.toNat, 0] }

/-! ## The order of what is printed -/

theorem dateArgs_lex {tm tm' : Tm} (h : List.Lex (· < ·) tm.fields tm'.fields)
    (rest rest' : List Nat) :
    List.Lex (· < ·) (dateArgs tm ++ rest) (dateArgs tm' ++ rest') := by
  simp only [Tm.fields, List.cons_lex_cons_iff, List.not_lex_nil] at h
  simp only [dateArgs, List.cons_append, List.nil_append, List.cons_lex_cons_iff,
    Nat.add_lt_add_iff_right, Nat.add_right_cancel_iff]
  grind

theorem secondsOf_toNat {timestamp : UInt64}
    (h : timestamp.toNat / 1000 < 4294967296) :
    (secondsOf timestamp).toNat = timestamp.toNat / 1000 := by
  have hthousand : (1000 : UInt64).toNat = 1000 := by decide
  rw [secondsOf, UInt64.toNat_toUInt32, UInt64.toNat_div, hthousand]
  exact Nat.mod_eq_of_lt h

theorem millisecondsOf_toNat (timestamp : UInt64) :
    (millisecondsOf timestamp).toNat = timestamp.toNat % 1000 := by
  have hthousand : (1000 : UInt64).toNat = 1000 := by decide
  rw [millisecondsOf, UInt64.toNat_toUInt32, UInt64.toNat_mod, hthousand]
  omega

/-- A time that fits 32 bits is printed as a date. -/
theorem customTimestampFormatter64_eq (timestamp : UInt64) :
    ∃ tm, gmtime (secondsOf timestamp).toNat = some tm
      ∧ customTimestampFormatter64 timestamp =
        { format := "[%04d-%02d-%02d %02d:%02d:%02d.%03u] "
          args := dateArgs tm ++ [(millisecondsOf timestamp).toNat] } := by
  have hfits : (secondsOf timestamp).toNat < 4294967296 := UInt32.toNat_lt _
  obtain ⟨tm, htm⟩ := gmtime_isSome hfits
  refine ⟨tm, htm, ?_⟩
  unfold customTimestampFormatter64
  dsimp only
  rw [htm]

/-- The GPS epoch. -/
example : (customTimestampFormatter64 315964800000).args = [1980, 1, 6, 0, 0, 0, 0] := by
  decide

/-- What is printed for two timestamps is in the order of the timestamps: the
    seconds and milliseconds, and so the fields of the dates. -/
structure PrintedInOrder (x y : UInt64) : Prop where
  pairs : x < y ↔ secondsOf x < secondsOf y
    ∨ secondsOf x = secondsOf y ∧ millisecondsOf x < millisecondsOf y
  format : (customTimestampFormatter64 x).format = (customTimestampFormatter64 y).format
  args : x < y ↔ List.Lex (· < ·) (customTimestampFormatter64 x).args
    (customTimestampFormatter64 y).args

/-- Later timestamps are printed as later dates. -/
theorem customTimestampFormatter64_lt {x y : UInt64} (h : x.toNat < y.toNat)
    (hy : y.toNat / 1000 < 4294967296) :
    List.Lex (· < ·) (customTimestampFormatter64 x).args
      (customTimestampFormatter64 y).args := by
  have hx : x.toNat / 1000 < 4294967296 := by omega
  obtain ⟨tm, htm, hprint⟩ := customTimestampFormatter64_eq x
  obtain ⟨tm', htm', hprint'⟩ := customTimestampFormatter64_eq y
  rw [hprint, hprint']
  rw [secondsOf_toNat hx] at htm
  rw [secondsOf_toNat hy] at htm'
  rcases Nat.lt_or_ge (x.toNat / 1000) (y.toNat / 1000) with hlt | hge
  · exact dateArgs_lex (gmtime_lt hlt htm htm') _ _
  · -- the same second has the same date
    have hsame : x.toNat / 1000 = y.toNat / 1000 := by omega
    rw [hsame, htm'] at htm
    cases htm
    refine List.Lex.append_left (· < ·) (List.Lex.rel ?_) (dateArgs tm)
    rw [millisecondsOf_toNat, millisecondsOf_toNat]
    omega

/-- So are later timestamps in seconds. -/
theorem customTimestampFormatter32_lt {x y : UInt32} (h : x.toNat < y.toNat) :
    List.Lex (· < ·) (customTimestampFormatter32 x).args
      (customTimestampFormatter32 y).args := by
  obtain ⟨tm, htm⟩ := gmtime_isSome (UInt32.toNat_lt x)
  obtain ⟨tm', htm'⟩ := gmtime_isSome (UInt32.toNat_lt y)
  have hlex := dateArgs_lex (gmtime_lt h htm htm') [] []
  rw [List.append_nil, List.append_nil] at hlex
  unfold customTimestampFormatter32
  rw [htm, htm']
  exact hlex

/-- **THE FORMATTER KEEPS THE ORDER** of times that fit 32 bits. -/
theorem customTimestampFormatter64_inOrder {x y : UInt64}
    (hx : x.toNat / 1000 < 4294967296) (hy : y.toNat / 1000 < 4294967296) :
    PrintedInOrder x y where
  pairs := by
    rw [UInt64.lt_iff_toNat_lt, UInt32.lt_iff_toNat_lt, UInt32.lt_iff_toNat_lt,
      ← UInt32.toNat_inj, secondsOf_toNat hx, secondsOf_toNat hy,
      millisecondsOf_toNat, millisecondsOf_toNat]
    omega
  format := by
    obtain ⟨_, _, hprint⟩ := customTimestampFormatter64_eq x
    obtain ⟨_, _, hprint'⟩ := customTimestampFormatter64_eq y
    rw [hprint, hprint']
  args := by
    rw [UInt64.lt_iff_toNat_lt]
    refine ⟨fun h => customTimestampFormatter64_lt h hy, fun hlex => ?_⟩
    rcases Nat.lt_trichotomy x.toNat y.toNat with hlt | heq | hgt
    · exact hlt
    · rw [UInt64.toNat_inj.mp heq] at hlex
      exact absurd hlex (List.lex_irrefl Nat.lt_irrefl _)
    · exact absurd (customTimestampFormatter64_lt hgt hx)
        (List.lex_asymm (fun h => Nat.lt_asymm h) hlex)

/-! ## Whole logs -/

/-- The log of calls at `uptimes`, before network time is known. -/
structure NeverGoesBack64 (uptimes : List Nat) : Prop where
  stamps : (uptimes.map (logTimestamp64 none)).Pairwise (· ≤ ·)
  printed : ∀ t ∈ uptimes, ∀ u ∈ uptimes,
    PrintedInOrder (logTimestamp64 none t) (logTimestamp64 none u)

def NeverGoesBack32 (uptimes : List Nat) : Prop :=
  (uptimes.map (logTimestamp32 none)).Pairwise (· ≤ ·)

theorem logTimestamp64_printed (t u : Nat) :
    PrintedInOrder (logTimestamp64 none t) (logTimestamp64 none u) := by
  refine customTimestampFormatter64_inOrder ?_ ?_
  · rw [logTimestamp64_none_toNat]
    omega
  · rw [logTimestamp64_none_toNat]
    omega

/-- In a sorted list conditions on the pairs need to agree only where the order
    holds. -/
theorem pairwise_congr {α : Type} {r p q : α → α → Prop} {l : List α}
    (hl : l.Pairwise r) (h : ∀ a b, r a b → (p a b ↔ q a b)) :
    l.Pairwise p ↔ l.Pairwise q :=
  ⟨fun hp => hl.imp₂ (fun _ _ hr hpab => (h _ _ hr).mp hpab) hp,
    fun hq => hl.imp₂ (fun _ _ hr hqab => (h _ _ hr).mpr hqab) hq⟩

/-- **THE LOG GOES BACK WHEN THE COUNTER WRAPS**, and only then; in whole seconds
    also only if the wrap is not within one second. -/
theorem neverGoesBack_iff {uptimes : List Nat} (h : uptimes.Pairwise (· ≤ ·)) :
    (NeverGoesBack64 uptimes ↔ uptimes.Pairwise fun t u => ¬ Wraps t u)
      ∧ (NeverGoesBack32 uptimes ↔ uptimes.Pairwise fun t u =>
          Wraps t u → t % 4294967296 / 1000 = u % 4294967296 / 1000) := by
  have h64 := pairwise_congr h fun _ _ => logTimestamp64_le_iff
  have h32 := pairwise_congr h fun _ _ => logTimestamp32_le_iff
  rw [← h64, ← h32, NeverGoesBack32, List.pairwise_map]
  refine ⟨⟨fun hlog => ?_, fun hstamps => ?_⟩, Iff.rfl⟩
  · have hstamps := hlog.stamps
    rw [List.pairwise_map] at hstamps
    exact hstamps
  · exact
      { stamps := List.pairwise_map.mpr hstamps
        printed := fun t _ u _ => logTimestamp64_printed t u }

theorem neverGoesBack_firstDay :
    [0, 1500, 86400000].Pairwise (· ≤ ·)
      ∧ NeverGoesBack64 [0, 1500, 86400000] ∧ NeverGoesBack32 [0, 1500, 86400000] := by
  have hsorted : [0, 1500, 86400000].Pairwise (· ≤ ·) := by decide
  obtain ⟨h64, h32⟩ := neverGoesBack_iff hsorted
  exact ⟨hsorted, h64.mpr (by decide), h32.mpr (by decide)⟩

/-- Fifty days after boot the log is back at the GPS epoch. -/
theorem log_back_at_epoch :
    [4294967295, 4294967296].Pairwise (· ≤ ·)
      ∧ logTimestamp64 none 4294967295 = 320259767295
      ∧ logTimestamp64 none 4294967296 = 315964800000
      ∧ ¬ NeverGoesBack64 [4294967295, 4294967296]
      ∧ ¬ NeverGoesBack32 [4294967295, 4294967296] := by
  refine ⟨by decide, by decide, by decide, fun h => ?_, fun h => ?_⟩
  · exact absurd h.stamps (by decide)
  · rw [NeverGoesBack32] at h
    exact absurd h (by decide)

end LogTimestamp
