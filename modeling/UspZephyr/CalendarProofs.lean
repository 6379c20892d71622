/-! # The calendar

    `count` takes units of varying length off a number, one after the other:
    years off a number of days, then months off the days of a year.  What comes
    of it keeps the order of the numbers (`count_lt`), and so do the fields of a
    date (`gmtime_lt`). -/

namespace Calendar

/-! ## Units of varying length -/

/-- The unit that `n` ends in, from the unit `k` on, and what is left of it there;
    at most `fuel` units are taken off. -/
def count (len : Nat → Nat) : Nat → Nat → Nat → Nat × Nat
  | 0, k, n => (k, n)
  | fuel + 1, k, n =>
      if n < len k then (k, n) else count len fuel (k + 1) (n - len k)

variable {len : Nat → Nat}

theorem le_count (fuel k n : Nat) : k ≤ (count len fuel k n).1 := by
  induction fuel generalizing k n with
  | zero => exact Nat.le_refl k
  | succ fuel ih =>
      rw [count]
      split
      · exact Nat.le_refl k
      · exact Nat.le_trans (Nat.le_succ k) (ih (k + 1) _)

theorem count_le (fuel k n : Nat) : (count len fuel k n).1 ≤ k + fuel := by
  induction fuel generalizing k n with
  | zero => exact Nat.le_refl k
  | succ fuel ih =>
      rw [count]
      split
      · exact Nat.le_add_right k _
      · have := ih (k + 1) (n - len k)
        omega

/-- Units that are not empty are all taken off. -/
theorem count_fuel (hlen : ∀ k, 0 < len k) {fuel n : Nat} (hn : n ≤ fuel)
    (k : Nat) : count len fuel k n = count len n k n := by
  induction n using Nat.strongRecOn generalizing fuel k with
  | ind n ih =>
      have hpos := hlen k
      cases n with
      | zero =>
          cases fuel with
          | zero => rfl
          | succ fuel => exact if_pos hpos
      | succ n =>
          cases fuel with
          | zero => cases hn
          | succ fuel =>
              rw [count, count]
              split
              · rfl
              · -- what is left fits both amounts of fuel
                have hsmall : n + 1 - len k < n + 1 := by omega
                exact (ih _ hsmall (by omega) (k + 1)).trans
                  (ih _ hsmall (by omega) (k + 1)).symm

/-- A larger number ends in a later unit, or later in the same one. -/
theorem count_lt (len : Nat → Nat) {n m : Nat} (h : n < m) (fuel k : Nat) :
    (count len fuel k n).1 < (count len fuel k m).1
      ∨ (count len fuel k n).1 = (count len fuel k m).1
        ∧ (count len fuel k n).2 < (count len fuel k m).2 := by
  induction fuel generalizing k n m with
  | zero => exact Or.inr ⟨rfl, h⟩
  | succ fuel ih =>
      rw [count, count]
      by_cases hn : n < len k
      · rw [if_pos hn]
        by_cases hm : m < len k
        · rw [if_pos hm]
          exact Or.inr ⟨rfl, h⟩
        · rw [if_neg hm]
          exact Or.inl (le_count fuel (k + 1) _)
      · rw [if_neg hn, if_neg (show ¬ m < len k by omega)]
        exact ih (by omega) (k + 1)

/-! ## Dates -/

def isLeapYear (year : Nat) : Bool :=
  year % 4 = 0 && (year % 100 != 0 || year % 400 = 0)

def daysInYear (year : Nat) : Nat := if isLeapYear year then 366 else 365

/-- The months are counted from 0. -/
def daysInMonth (year month : Nat) : Nat :=
  if month = 1 then (if isLeapYear year then 29 else 28)
  else if month = 3 ∨ month = 5 ∨ month = 8 ∨ month = 10 then 30
  else 31

/-- `struct tm`, in the order of significance. -/
structure Tm where
  tmYear : Nat
  tmMon : Nat
  tmMday : Nat
  tmHour : Nat
  tmMin : Nat
  tmSec : Nat
  deriving DecidableEq, Repr

/-- The year, the month and the day of a day since the beginning of 1970. -/
def civil (days : Nat) : Nat × Nat × Nat :=
  let (year, yday) := count daysInYear days 1970 days
  let (month, mday) := count (daysInMonth year) 11 0 yday
  (year, month, mday)

def INT_MAX : Nat := 2147483647

/-- `gmtime`, for a time that is not before 1970; `none` if the year does not
    fit. -/
def gmtime (seconds : Nat) : Option Tm :=
  let (year, month, mday) := civil (seconds / 86400)
  if year - 1900 ≤ INT_MAX then
    some
      { tmYear := year - 1900
        tmMon := month
        tmMday := mday + 1
        tmHour := seconds % 86400 / 3600
        tmMin := seconds % 3600 / 60
        tmSec := seconds % 60 }
  else none

/-! ## The order of dates -/

theorem daysInYear_pos (year : Nat) : 0 < daysInYear year := by
  rw [daysInYear]
  split
  · decide
  · decide

/-- Later days have later dates. -/
theorem civil_lt {days days' : Nat} (h : days < days') :
    (civil days).1 < (civil days').1
      ∨ (civil days).1 = (civil days').1
        ∧ ((civil days).2.1 < (civil days').2.1
          ∨ (civil days).2.1 = (civil days').2.1
            ∧ (civil days).2.2 < (civil days').2.2) := by
  have hyear := count_lt daysInYear h days' 1970
  rw [count_fuel daysInYear_pos (Nat.le_of_lt h)] at hyear
  rw [civil, civil]
  dsimp only
  rcases hyear with hyear | ⟨hyear, hyday⟩
  · exact Or.inl hyear
  · refine Or.inr ⟨hyear, ?_⟩
    rw [hyear]
    exact count_lt _ hyday 11 0

theorem civil_year_le (days : Nat) : (civil days).1 ≤ 1970 + days :=
  count_le days 1970 days

theorem le_civil_year (days : Nat) : 1970 ≤ (civil days).1 :=
  le_count days 1970 days

theorem gmtime_eq_some {seconds : Nat} {tm : Tm} (h : gmtime seconds = some tm) :
    (civil (seconds / 86400)).1 - 1900 ≤ INT_MAX
      ∧ tm =
        { tmYear := (civil (seconds / 86400)).1 - 1900
          tmMon := (civil (seconds / 86400)).2.1
          tmMday := (civil (seconds / 86400)).2.2 + 1
          tmHour := seconds % 86400 / 3600
          tmMin := seconds % 3600 / 60
          tmSec := seconds % 60 } := by
  rcases hdate : civil (seconds / 86400) with ⟨year, month, mday⟩
  rw [gmtime, hdate] at h
  dsimp only at h
  by_cases hfits : year - 1900 ≤ INT_MAX
  · rw [if_pos hfits] at h
    exact ⟨hfits, (Option.some.inj h).symm⟩
  · rw [if_neg hfits] at h
    cases h

/-- The fields, the most significant first. -/
def Tm.fields (tm : Tm) : List Nat :=
  [tm.tmYear, tm.tmMon, tm.tmMday, tm.tmHour, tm.tmMin, tm.tmSec]

/-- **LATER TIMES HAVE LATER DATES**, field by field. -/
theorem gmtime_lt {seconds seconds' : Nat} {tm tm' : Tm}
    (h : seconds < seconds') (htm : gmtime seconds = some tm)
    (htm' : gmtime seconds' = some tm') :
    List.Lex (· < ·) tm.fields tm'.fields := by
  obtain ⟨_, rfl⟩ := gmtime_eq_some htm
  obtain ⟨_, rfl⟩ := gmtime_eq_some htm'
  have hyear := le_civil_year (seconds / 86400)
  simp only [Tm.fields, List.cons_lex_cons_iff]
  rcases Nat.lt_or_ge (seconds / 86400) (seconds' / 86400) with hday | hday
  · rcases civil_lt hday with hdate | ⟨hdate, hmonth | ⟨hmonth, hmday⟩⟩
    · exact Or.inl (by omega)
    · exact Or.inr ⟨by omega, Or.inl hmonth⟩
    · exact Or.inr ⟨by omega, Or.inr ⟨hmonth, Or.inl (by omega)⟩⟩
  · -- the same day, so the time of day decides
    have hday : seconds / 86400 = seconds' / 86400 := by omega
    rw [hday]
    refine Or.inr ⟨rfl, Or.inr ⟨rfl, Or.inr ⟨rfl, ?_⟩⟩⟩
    omega

/-- The years of 32-bit times fit. -/
theorem gmtime_isSome {seconds : Nat} (h : seconds < 4294967296) :
    ∃ tm, gmtime seconds = some tm := by
  have hyear := civil_year_le (seconds / 86400)
  rcases hdate : civil (seconds / 86400) with ⟨year, month, mday⟩
  rw [hdate] at hyear
  dsimp only at hyear
  have hfits : year - 1900 ≤ INT_MAX := by
    rw [INT_MAX]
    omega
  rw [gmtime, hdate]
  exact ⟨_, if_pos hfits⟩

example : gmtime 951782400 = some ⟨100, 1, 29, 0, 0, 0⟩ := by decide

end Calendar
