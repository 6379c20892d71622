import Mathlib.Data.UInt
import Mathlib.Order.Monotone.Basic

/-! # A 32-bit clock that wraps

    Time is a natural number; the clock shows it modulo `2 ^ 32`.  A deadline
    computed on the clock and compared with it is the deadline in time as long
    as the clock does not wrap before it (`reading_le_deadline`).  The difference
    of two readings is the time between them modulo the period, and read as a
    signed number only in its first half (`le_elapsed_signed`).

    Samples of the clock come after a start, one later than the other and never
    a whole `gap` apart (`Paced`).  `Paced.first_after` finds a sample just
    after a deadline, and `skipping` is a sequence of samples that never sees
    the clock between a limit and the wrap. -/

namespace WrappingClock

/-- What the clock shows. -/
def reading (t : Nat) : UInt32 := UInt32.ofNat t

@[simp] theorem reading_toNat (t : Nat) :
    (reading t).toNat = t % 4294967296 := UInt32.toNat_ofNat'

/-- **DEADLINES BEFORE THE WRAP**: the clock says that the deadline has not
    passed exactly when it has not. -/
theorem reading_le_deadline {start timeout t : Nat}
    (hdeadline : start % 4294967296 + timeout < 4294967296)
    (hstart : start ≤ t) (ht : start % 4294967296 + (t - start) < 4294967296) :
    reading t ≤ reading start + UInt32.ofNat timeout ↔ t ≤ start + timeout := by
  rw [UInt32.le_iff_toNat_le, UInt32.toNat_add, reading_toNat, reading_toNat,
    UInt32.toNat_ofNat']
  omega

/-- A deadline behind the wrap is in the past for a clock that has not
    wrapped. -/
theorem deadline_lt_reading {start timeout : Nat} (htimeout : timeout < 4294967296)
    (hwrap : 4294967296 ≤ start % 4294967296 + timeout) :
    reading start + UInt32.ofNat timeout < reading start := by
  rw [UInt32.lt_iff_toNat_lt, UInt32.toNat_add, reading_toNat,
    UInt32.toNat_ofNat']
  omega

/-! ## Elapsed time -/

/-- The difference of two readings is the time between them, modulo the period. -/
theorem elapsed_toNat {t0 t : Nat} (h : t0 ≤ t) :
    (reading t - reading t0).toNat = (t - t0) % 4294967296 := by
  rw [UInt32.toNat_sub, reading_toNat, reading_toNat]
  omega

/-- **READ AS A SIGNED NUMBER** the difference is large only in the first half of
    the period. -/
theorem le_elapsed_signed {t0 t : Nat} (h : t0 ≤ t) (least : Nat) :
    (least : Int) ≤ (reading t - reading t0).toBitVec.toInt
      ↔ least ≤ (t - t0) % 4294967296 ∧ (t - t0) % 4294967296 < 2147483648 := by
  have helapsed := elapsed_toNat h
  rw [← UInt32.toNat_toBitVec] at helapsed
  rw [BitVec.toInt_eq_toNat_cond, helapsed]
  split
  · omega
  · omega

/-- What the time from `t` to `u` has over whole periods carries the clock past
    its end. -/
def Wraps (t u : Nat) : Prop :=
  4294967296 ≤ t % 4294967296 + (u - t) % 4294967296

instance (t u : Nat) : Decidable (Wraps t u) :=
  inferInstanceAs (Decidable (4294967296 ≤ _))

/-- **THE CLOCK GOES BACK** only when it wraps. -/
theorem reading_lt_iff {t u : Nat} (h : t ≤ u) :
    reading u < reading t ↔ Wraps t u := by
  rw [UInt32.lt_iff_toNat_lt, reading_toNat, reading_toNat, Wraps]
  omega

/-! ## Samples -/

/-- Samples from `start` on. -/
structure Paced (gap start : Nat) (time : Nat → Nat) : Prop where
  start_le : start ≤ time 0
  first : time 0 < start + gap
  advances : ∀ k, time k < time (k + 1)
  close : ∀ k, time (k + 1) < time k + gap

theorem Paced.mono {gap start : Nat} {time : Nat → Nat}
    (h : Paced gap start time) : Monotone time :=
  monotone_nat_of_le_succ fun k => Nat.le_of_lt (h.advances k)

theorem Paced.start_le_time {gap start : Nat} {time : Nat → Nat}
    (h : Paced gap start time) (k : Nat) : start ≤ time k :=
  Nat.le_trans h.start_le (h.mono (Nat.zero_le k))

/-- Time goes on. -/
theorem Paced.add_le_time {gap start : Nat} {time : Nat → Nat}
    (h : Paced gap start time) (k : Nat) : start + k ≤ time k := by
  induction k with
  | zero => exact h.start_le
  | succ k ih =>
      have := h.advances k
      omega

/-- A gap of less than two ticks leaves no room for samples. -/
theorem Paced.gap_ge {gap start : Nat} {time : Nat → Nat}
    (h : Paced gap start time) : 2 ≤ gap := by
  have h1 := h.advances 0
  have h2 := h.close 0
  omega

/-- The first sample behind a deadline is less than a `gap` behind it. -/
theorem Paced.first_after {gap start deadline : Nat} {time : Nat → Nat}
    (h : Paced gap start time) (hdeadline : start ≤ deadline) {k : Nat}
    (hk : deadline < time k) :
    ∃ j, j ≤ k ∧ deadline < time j ∧ time j < deadline + gap := by
  induction k with
  | zero =>
      have := h.first
      exact ⟨0, Nat.le_refl 0, hk, by omega⟩
  | succ k ih =>
      rcases Nat.lt_or_ge deadline (time k) with hlt | hge
      · obtain ⟨j, hj, hafter⟩ := ih hlt
        exact ⟨j, Nat.le_succ_of_le hj, hafter⟩
      · have := h.close k
        exact ⟨k + 1, Nat.le_refl _, hk, by omega⟩

/-- A sample at every tick, but none while the clock shows more than `limit`. -/
def skipping (start limit : Nat) : Nat → Nat
  | 0 => start
  | k + 1 =>
      let t := skipping start limit k
      if t % 4294967296 = limit then t + (4294967296 - limit) else t + 1

theorem skipping_cases (start limit k : Nat) :
    (skipping start limit k % 4294967296 = limit
        ∧ skipping start limit (k + 1)
          = skipping start limit k + (4294967296 - limit))
      ∨ (skipping start limit k % 4294967296 ≠ limit
        ∧ skipping start limit (k + 1) = skipping start limit k + 1) := by
  by_cases h : skipping start limit k % 4294967296 = limit
  · exact Or.inl ⟨h, if_pos h⟩
  · exact Or.inr ⟨h, if_neg h⟩

theorem skipping_mod_le {start limit : Nat}
    (hstart : start % 4294967296 ≤ limit) (hlimit : limit < 4294967296)
    (k : Nat) : skipping start limit k % 4294967296 ≤ limit := by
  induction k with
  | zero => exact hstart
  | succ k ih =>
      rcases skipping_cases start limit k with ⟨hmod, hnext⟩ | ⟨hmod, hnext⟩
      · rw [hnext]
        omega
      · rw [hnext]
        omega

/-- It is paced when the part of the clock that it skips is shorter than the
    gap. -/
theorem skipping_paced {gap start limit : Nat} (hgap : 2 ≤ gap)
    (hlimit : limit < 4294967296) (hskip : 4294967296 < limit + gap) :
    Paced gap start (skipping start limit) where
  start_le := Nat.le_refl start
  first := by
    show start < start + gap
    omega
  advances := by
    intro k
    rcases skipping_cases start limit k with ⟨_, hnext⟩ | ⟨_, hnext⟩
    · rw [hnext]
      omega
    · rw [hnext]
      omega
  close := by
    intro k
    rcases skipping_cases start limit k with ⟨_, hnext⟩ | ⟨_, hnext⟩
    · rw [hnext]
      omega
    · rw [hnext]
      omega

/-- A sample at every tick. -/
theorem everyTick_paced {gap start : Nat} (hgap : 2 ≤ gap) :
    Paced gap start (fun k => start + k) where
  start_le := Nat.le_refl start
  first := by omega
  advances := by
    intro k
    omega
  close := by
    intro k
    omega

end WrappingClock
