import UspZephyr.WrappingClockProofs

/-! # Rate limiters on a clock that wraps

    A limiter accepts an event if enough time has passed since the one it
    accepted last.  It keeps the reading of the clock at that time (`Remembers`)
    and has only the difference of two readings to decide by.

    `Limited` is what is asked of it.  A limiter that reads the difference as an
    unsigned number meets it always (`limited_unsigned`), one that reads it as a
    signed number exactly in the first half of the period
    (`limited_signed_iff`). -/

namespace RateLimiter

open WrappingClock

/-- What is asked of an event at the time `t`, when those accepted before it were
    at `times`, the latest first: it keeps the distance, and it is accepted if
    the latest is far enough back and less than a period. -/
structure Limited (least : Nat) (times : List Nat) (t : Nat)
    (asked accepted : Prop) : Prop where
  apart : accepted → ∀ t0 ∈ times, t0 + least ≤ t
  prompt : asked → ∀ t0, times.head? = some t0 → t0 + least ≤ t →
    t < t0 + 4294967296 → accepted

/-- The time since the latest is less than half a period, or a whole one. -/
def InFirstHalf (times : List Nat) (t : Nat) : Prop :=
  ∀ t0, times.head? = some t0 → t < t0 + 2147483648 ∨ t0 + 4294967296 ≤ t

/-- The reading that the limiter keeps is that of the latest, and `now` is not
    before it. -/
structure Remembers (stamp : UInt32) (times : List Nat) (now : Nat) : Prop where
  stamp_eq : ∀ t0, times.head? = some t0 → stamp = reading t0
  le_head : ∀ t0, times.head? = some t0 → ∀ t1 ∈ times, t1 ≤ t0
  le_now : ∀ t0 ∈ times, t0 ≤ now

theorem remembers_nil (stamp : UInt32) (now : Nat) : Remembers stamp [] now :=
  ⟨nofun, nofun, nofun⟩

variable {stamp : UInt32} {times : List Nat} {now t least : Nat}

/-- An event that is not accepted changes nothing. -/
theorem Remembers.later (h : Remembers stamp times now) (ht : now ≤ t) :
    Remembers stamp times t where
  stamp_eq := h.stamp_eq
  le_head := h.le_head
  le_now := by
    intro t0 ht0
    exact Nat.le_trans (h.le_now t0 ht0) ht

/-- One that is becomes the latest. -/
theorem Remembers.accept (h : Remembers stamp times now) (ht : now ≤ t) :
    Remembers (reading t) (t :: times) t := by
  have hle : ∀ t1 ∈ t :: times, t1 ≤ t := by
    intro t1 ht1
    rcases List.mem_cons.mp ht1 with rfl | ht1
    · exact Nat.le_refl t1
    · exact Nat.le_trans (h.le_now t1 ht1) ht
  refine ⟨?_, ?_, hle⟩
  · rintro _ ⟨⟩
    rfl
  · rintro _ ⟨⟩
    exact hle

/-- The times accepted after an event at the time `t`. -/
def note (accepted : Bool) (t : Nat) (times : List Nat) : List Nat :=
  if accepted then t :: times else times

/-- Either way, if the limiter keeps the reading when it accepts. -/
theorem Remembers.note (h : Remembers stamp times now) (ht : now ≤ t)
    {accepted : Bool} {stamp' : UInt32}
    (hstamp : stamp' = if accepted then reading t else stamp) :
    Remembers stamp' (note accepted t times) t := by
  subst hstamp
  cases accepted with
  | true => exact h.accept ht
  | false => exact h.later ht

/-- It is enough to keep the distance to the latest. -/
theorem Remembers.apart (h : Remembers stamp times now)
    (hlatest : ∀ t0, times.head? = some t0 → t0 + least ≤ t) :
    ∀ t0 ∈ times, t0 + least ≤ t := by
  intro t1 ht1
  cases times with
  | nil => cases ht1
  | cons t0 times =>
      have hle := h.le_head t0 rfl t1 ht1
      have hfar := hlatest t0 rfl
      omega

section Decides

variable {asked accepted : Prop}

/-- **UNSIGNED DIFFERENCES LIMIT THE RATE** whatever the clock shows. -/
theorem limited_unsigned (h : Remembers stamp times now) (ht : now ≤ t)
    (hdecides : accepted ↔ asked ∧ least ≤ (reading t - stamp).toNat) :
    Limited least times t asked accepted := by
  have helapsed : ∀ t0, times.head? = some t0 →
      (reading t - stamp).toNat = (t - t0) % 4294967296 ∧ t0 ≤ t := by
    intro t0 ht0
    have hle := h.le_now t0 (List.mem_of_mem_head? ht0)
    rw [h.stamp_eq t0 ht0]
    exact ⟨elapsed_toNat (Nat.le_trans hle ht), Nat.le_trans hle ht⟩
  constructor
  · intro haccepted
    refine h.apart ?_
    intro t0 ht0
    obtain ⟨helapsed, hle⟩ := helapsed t0 ht0
    have hleast := (hdecides.mp haccepted).2
    omega
  · intro hasked t0 ht0 hfar hperiod
    obtain ⟨helapsed, hle⟩ := helapsed t0 ht0
    exact hdecides.mpr ⟨hasked, by omega⟩

/-- **SIGNED DIFFERENCES LIMIT THE RATE IN THE FIRST HALF OF THE PERIOD**, and
    refuse everything in the second. -/
theorem limited_signed_iff (h : Remembers stamp times now) (ht : now ≤ t)
    (hleast : least ≤ 2147483648)
    (hdecides : accepted ↔
      asked ∧ (least : Int) ≤ (reading t - stamp).toBitVec.toInt) :
    Limited least times t asked accepted ↔ (asked → InFirstHalf times t) := by
  have hsigned : ∀ t0, times.head? = some t0 → t0 ≤ t
      ∧ ((least : Int) ≤ (reading t - stamp).toBitVec.toInt ↔
        least ≤ (t - t0) % 4294967296 ∧ (t - t0) % 4294967296 < 2147483648) := by
    intro t0 ht0
    have hle := h.le_now t0 (List.mem_of_mem_head? ht0)
    rw [h.stamp_eq t0 ht0]
    exact ⟨Nat.le_trans hle ht, le_elapsed_signed (Nat.le_trans hle ht) least⟩
  constructor
  · intro hlimited hasked t0 ht0
    obtain ⟨hle, hiff⟩ := hsigned t0 ht0
    refine Decidable.byContradiction ?_
    intro hhalf
    -- far enough back and less than a period, so it would be accepted
    have haccepted := hlimited.prompt hasked t0 ht0 (by omega) (by omega)
    have hfirst := (hiff.mp (hdecides.mp haccepted).2).2
    omega
  · intro hhalf
    constructor
    · intro haccepted
      refine h.apart ?_
      intro t0 ht0
      obtain ⟨hle, hiff⟩ := hsigned t0 ht0
      have hfar := (hiff.mp (hdecides.mp haccepted).2).1
      omega
    · intro hasked t0 ht0 hfar hperiod
      obtain ⟨hle, hiff⟩ := hsigned t0 ht0
      have hfirst := hhalf hasked t0 ht0
      exact hdecides.mpr ⟨hasked, hiff.mpr (by omega)⟩

end Decides

end RateLimiter
