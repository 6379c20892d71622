import UspZephyr.RadioHalProofs
import UspZephyr.WrappingClockProofs

/-! # The timeout of the busy wait

    `*_hal_wait_on_busy` computes its deadline once and compares the uptime
    counter with it.  The counter wraps: a deadline behind the wrap has passed
    at once, and one just before it may be missed by every poll.

    The world polls at true times (`Paced`) and sees the counter.
    `honoursTimeout_iff` says at which uptimes the loop honours its timeout. -/

namespace BusyWait

open RadioHal WrappingClock

/-! ## The three loops -/

/-- `lr11xx_hal_wait_on_busy`. -/
def lr11xxHalWaitOnBusy (w : World) : HalM Unit := halWaitOnBusy w

/-- `lr20xx_hal_wait_on_busy`: it does not sleep between two polls. -/
def lr20xxHalWaitOnBusy (w : World) : HalM Unit := halWaitOnBusy w

/-- `sx126x_hal_wait_on_busy`. -/
def sx126xHalWaitOnBusy (w : World) : HalM Unit := halWaitOnBusy w

def waitOnBusy : Chip → World → HalM Unit
  | .lr11xx _ => lr11xxHalWaitOnBusy
  | .lr20xx => lr20xxHalWaitOnBusy
  | .sx126x => sx126xHalWaitOnBusy

theorem waitOnBusy_eq (chip : Chip) (w : World) :
    waitOnBusy chip w = halWaitOnBusy w := by
  cases chip with
  | lr11xx crc => rfl
  | lr20xx => rfl
  | sx126x => rfl

/-! ## What is asked for -/

/-- The first `n` polls. -/
def pollsUntil (time : Nat → Nat) (busyHigh : Nat → Bool) (n : Nat) : List Poll :=
  (List.range n).map fun k => ⟨reading (time k), busyHigh k⟩

/-- A call at the time `start` that gets `n` polls. -/
def worldAt (start timeout : Nat) (spi : Nat → SpiReply) (time : Nat → Nat)
    (busyHigh : Nat → Bool) (n : Nat) : World where
  waits := fun _ => ⟨reading start, pollsUntil time busyHigh n⟩
  spi := spi
  waitOnBusyTimeoutMsec := UInt32.ofNat timeout

/-- The loop ends without `k_oops`. -/
def Returns (r : EStateM.Result Stop Device Unit) : Prop := ∃ d, r = .ok () d

/-- The loop ends in `k_oops`. -/
def Oopses (r : EStateM.Result Stop Device Unit) : Prop :=
  ∃ d, r = .error .oops d

/-- A wait of at most `timeout` ms called at `start`. -/
structure HonoursTimeout (wait : World → HalM Unit) (start timeout : Nat) :
    Prop where
  returns : ∀ spi time busyHigh d, d.asleep = false → Paced timeout start time →
    (∃ k, time k ≤ start + timeout ∧ busyHigh k = false) →
    ∃ n, Returns (wait (worldAt start timeout spi time busyHigh n) d)
  givesUp : ∃ bound, ∀ spi time busyHigh d, d.asleep = false →
    Paced timeout start time → (∀ k, busyHigh k = true) →
    ∀ k, start + timeout < time k →
      Oopses (wait (worldAt start timeout spi time busyHigh (k + bound)) d)

/-! ## The loop on the polls it gets -/

/-- BUSY is seen low before the deadline. -/
theorem pollBusy_low {stop : UInt32} {ps : List Poll}
    (hstop : ∀ p ∈ ps, p.uptime ≤ stop) (hlow : ∃ p ∈ ps, p.busyHigh = false) :
    pollBusy false stop ps = some true := by
  induction ps with
  | nil =>
      obtain ⟨p, hp, _⟩ := hlow
      cases hp
  | cons p ps ih =>
      rw [pollBusy, if_pos (hstop p List.mem_cons_self), Bool.false_or]
      cases hp : p.busyHigh with
      | false => rfl
      | true =>
          refine (if_pos rfl).trans (ih ?_ ?_)
          · intro q hq
            exact hstop q (List.mem_cons_of_mem p hq)
          · obtain ⟨q, hq, hlow⟩ := hlow
            rcases List.mem_cons.mp hq with rfl | hq
            · exact absurd (hlow.symm.trans hp) nofun
            · exact ⟨q, hq, hlow⟩

/-- The deadline is seen to have passed while BUSY is high. -/
theorem pollBusy_late {stop : UInt32} {ps : List Poll}
    (hhigh : ∀ p ∈ ps, p.busyHigh = true) (hlate : ∃ p ∈ ps, stop < p.uptime) :
    pollBusy false stop ps = some false := by
  induction ps with
  | nil =>
      obtain ⟨p, hp, _⟩ := hlate
      cases hp
  | cons p ps ih =>
      rw [pollBusy, hhigh p List.mem_cons_self]
      by_cases hp : p.uptime ≤ stop
      · rw [if_pos hp]
        refine (if_pos rfl).trans (ih ?_ ?_)
        · intro q hq
          exact hhigh q (List.mem_cons_of_mem p hq)
        · obtain ⟨q, hq, hlate⟩ := hlate
          rcases List.mem_cons.mp hq with rfl | hq
          · exact absurd hp (UInt32.not_le.mpr hlate)
          · exact ⟨q, hq, hlate⟩
      · rw [if_neg hp]

/-- Neither is seen. -/
theorem pollBusy_goes_on {stop : UInt32} {ps : List Poll}
    (hhigh : ∀ p ∈ ps, p.busyHigh = true) (hstop : ∀ p ∈ ps, p.uptime ≤ stop) :
    pollBusy false stop ps = none := by
  induction ps with
  | nil => rfl
  | cons p ps ih =>
      rw [pollBusy, if_pos (hstop p List.mem_cons_self),
        hhigh p List.mem_cons_self]
      refine (if_pos rfl).trans (ih ?_ ?_)
      · intro q hq
        exact hhigh q (List.mem_cons_of_mem p hq)
      · intro q hq
        exact hstop q (List.mem_cons_of_mem p hq)

theorem mem_pollsUntil {time : Nat → Nat} {busyHigh : Nat → Bool} {n : Nat}
    {p : Poll} : p ∈ pollsUntil time busyHigh n
      ↔ ∃ k, k < n ∧ ⟨reading (time k), busyHigh k⟩ = p := by
  rw [pollsUntil, List.mem_map]
  simp only [List.mem_range]

section Outcome

variable {start timeout : Nat} {spi : Nat → SpiReply} {time : Nat → Nat}
  {busyHigh : Nat → Bool} {n : Nat} {d : Device} (hd : d.asleep = false)

include hd

/-- What a call does, by what its loop says. -/
theorem halWaitOnBusy_awake :
    (Returns (halWaitOnBusy (worldAt start timeout spi time busyHigh n) d)
        ↔ pollBusy false (reading start + UInt32.ofNat timeout)
          (pollsUntil time busyHigh n) = some true)
      ∧ (Oopses (halWaitOnBusy (worldAt start timeout spi time busyHigh n) d)
        ↔ pollBusy false (reading start + UInt32.ofNat timeout)
          (pollsUntil time busyHigh n) = some false) := by
  rw [halWaitOnBusy, hd]
  simp only [worldAt]
  cases pollBusy false (reading start + UInt32.ofNat timeout)
      (pollsUntil time busyHigh n) with
  | none => exact ⟨by simp [Returns], by simp [Oopses]⟩
  | some seen =>
      cases seen with
      | true => exact ⟨by simp [Returns], by simp [Oopses]⟩
      | false => exact ⟨by simp [Returns], by simp [Oopses]⟩

/-- A deadline before the wrap: BUSY low in time ends the wait. -/
theorem returns_of_low (hp : Paced timeout start time)
    (hwrap : start % 4294967296 + timeout < 4294967296) {k : Nat}
    (hk : time k ≤ start + timeout) (hlow : busyHigh k = false) :
    Returns (halWaitOnBusy (worldAt start timeout spi time busyHigh (k + 1)) d) := by
  refine (halWaitOnBusy_awake hd).1.mpr (pollBusy_low ?_ ?_)
  · intro p hpoll
    obtain ⟨j, hj, rfl⟩ := mem_pollsUntil.mp hpoll
    have hjk : time j ≤ time k := hp.mono (Nat.le_of_lt_succ hj)
    have hstart := hp.start_le_time j
    exact (reading_le_deadline hwrap hstart (by omega)).mpr (by omega)
  · exact ⟨_, mem_pollsUntil.mpr ⟨k, Nat.lt_succ_self k, rfl⟩, hlow⟩

/-- With a second timeout of room before the wrap, the first poll behind the
    deadline sees it. -/
theorem oopses_of_high (hp : Paced timeout start time)
    (hwrap : start % 4294967296 + 2 * timeout ≤ 4294967296)
    (hhigh : ∀ k, busyHigh k = true) {k : Nat} (hk : start + timeout < time k) :
    Oopses (halWaitOnBusy (worldAt start timeout spi time busyHigh (k + 1)) d) := by
  have hgap := hp.gap_ge
  obtain ⟨j, hj, hafter, hsoon⟩ := hp.first_after (by omega) hk
  have hlate : ¬ reading (time j) ≤ reading start + UInt32.ofNat timeout := by
    intro hle
    have := (reading_le_deadline (by omega) (hp.start_le_time j)
      (by omega)).mp hle
    omega
  refine (halWaitOnBusy_awake hd).2.mpr (pollBusy_late ?_ ?_)
  · intro p hpoll
    obtain ⟨i, _, rfl⟩ := mem_pollsUntil.mp hpoll
    exact hhigh i
  · exact ⟨_, mem_pollsUntil.mpr ⟨j, Nat.lt_succ_of_le hj, rfl⟩,
      UInt32.not_le.mp hlate⟩

/-- A deadline behind the wrap: no poll before the wrap looks at BUSY. -/
theorem not_returns_of_wrap (htimeout : timeout < 4294967296)
    (hwrap : 4294967296 ≤ start % 4294967296 + timeout)
    (hfirst : time 0 = start) :
    ¬ Returns (halWaitOnBusy (worldAt start timeout spi time busyHigh n) d) := by
  rw [(halWaitOnBusy_awake hd).1]
  have hpast := deadline_lt_reading htimeout hwrap
  cases n with
  | zero => exact nofun
  | succ n =>
      have hlate : ¬ reading (time 0) ≤ reading start + UInt32.ofNat timeout := by
        rw [hfirst]
        exact UInt32.not_le.mpr hpast
      rw [pollsUntil, List.range_succ_eq_map, List.map_cons, pollBusy,
        if_neg hlate]
      exact nofun

/-- Polls that skip the clock behind the deadline never end the wait. -/
theorem not_oopses_of_skipping
    (hlimit : start % 4294967296 + timeout < 4294967296)
    (htime : time = skipping start (start % 4294967296 + timeout))
    (hhigh : ∀ k, busyHigh k = true) :
    ¬ Oopses (halWaitOnBusy (worldAt start timeout spi time busyHigh n) d) := by
  rw [(halWaitOnBusy_awake hd).2]
  have hseen : ∀ k, reading (time k) ≤ reading start + UInt32.ofNat timeout := by
    intro k
    have hstart : start % 4294967296 ≤ start % 4294967296 + timeout :=
      Nat.le_add_right _ _
    have hskip := skipping_mod_le hstart hlimit k
    rw [UInt32.le_iff_toNat_le, UInt32.toNat_add, reading_toNat, reading_toNat,
      UInt32.toNat_ofNat', htime]
    omega
  have hnone : pollBusy false (reading start + UInt32.ofNat timeout)
      (pollsUntil time busyHigh n) = none := by
    refine pollBusy_goes_on ?_ ?_
    · intro p hpoll
      obtain ⟨k, _, rfl⟩ := mem_pollsUntil.mp hpoll
      exact hhigh k
    · intro p hpoll
      obtain ⟨k, _, rfl⟩ := mem_pollsUntil.mp hpoll
      exact hseen k
  rw [hnone]
  exact nofun

end Outcome

/-- Where the world has no say, it answers nothing. -/
def noSpi : Nat → SpiReply := fun _ => ⟨false, fun _ => 0⟩

/-- **WHERE IN ITS PERIOD THE COUNTER MAY BE**: a wait honours its timeout
    exactly when the counter is, at the call, at least two timeouts before its
    wrap (a timeout of less than two ticks leaves no room for polls). -/
theorem honoursTimeout_iff (chip : Chip) (start timeout : Nat)
    (htimeout : timeout < 2147483648) :
    HonoursTimeout (waitOnBusy chip) start timeout
      ↔ timeout ≤ 1 ∨ start % 4294967296 + 2 * timeout ≤ 4294967296 := by
  constructor
  · rintro ⟨hreturns, bound, hgivesUp⟩
    rcases Nat.lt_or_ge timeout 2 with hsmall | hgap
    · exact Or.inl (Nat.le_of_lt_succ hsmall)
    · refine Or.inr (Nat.le_of_not_lt ?_)
      intro hwrap
      rcases Nat.lt_or_ge (start % 4294967296 + timeout) 4294967296 with
        hbefore | hbehind
      · -- polls that skip what is left of the period never give up
        have hp : Paced timeout start
            (skipping start (start % 4294967296 + timeout)) :=
          skipping_paced hgap hbefore (by omega)
        have hlate := hp.add_le_time (timeout + 1)
        have hoops := hgivesUp noSpi _ (fun _ => true) initialDevice rfl hp
          (fun _ => rfl) (timeout + 1) (by omega)
        rw [waitOnBusy_eq] at hoops
        exact not_oopses_of_skipping rfl hbefore rfl (fun _ => rfl) hoops
      · -- the call does not see a BUSY that is low from the start
        obtain ⟨n, hn⟩ := hreturns noSpi _ (fun _ => false) initialDevice rfl
          (everyTick_paced hgap) ⟨0, by omega, rfl⟩
        rw [waitOnBusy_eq] at hn
        exact not_returns_of_wrap rfl (by omega) hbehind rfl hn
  · rintro (hsmall | hwrap)
    · have hnone : ∀ time, ¬ Paced timeout start time := by
        intro time hp
        have := hp.gap_ge
        omega
      exact ⟨fun _ time _ _ _ hp => absurd hp (hnone time), 0,
        fun _ time _ _ _ hp => absurd hp (hnone time)⟩
    · refine ⟨?_, 1, ?_⟩
      · rintro spi time busyHigh d hd hp ⟨k, hk, hlow⟩
        have hgap := hp.gap_ge
        refine ⟨k + 1, ?_⟩
        rw [waitOnBusy_eq]
        exact returns_of_low hd hp (by omega) hk hlow
      · intro spi time busyHigh d hd hp hhigh k hk
        rw [waitOnBusy_eq]
        exact oopses_of_high hd hp hwrap hhigh hk

/-- A wait of at most ten minutes, ten minutes after a reset. -/
theorem honoursTimeout_tenMinutes : HonoursTimeout lr20xxHalWaitOnBusy 600000 600000 :=
  (honoursTimeout_iff .lr20xx 600000 600000 (by decide)).mpr (Or.inr (by decide))

/-- **ONE SECOND BEFORE THE WRAP** a wait of ten minutes ends in `k_oops` at
    its first poll, with BUSY low all the time. -/
theorem busy_low_oopses :
    Paced 600000 4294966296 (fun k => 4294966296 + k)
      ∧ Oopses (sx126xHalWaitOnBusy (worldAt 4294966296 600000 noSpi
          (fun k => 4294966296 + k) (fun _ => false) 1) initialDevice)
      ∧ ¬ HonoursTimeout sx126xHalWaitOnBusy 4294966296 600000 := by
  have hp : Paced 600000 4294966296 (fun k => 4294966296 + k) :=
    everyTick_paced (by decide)
  refine ⟨hp, (halWaitOnBusy_awake rfl).2.mpr (by decide), ?_⟩
  intro h
  obtain ⟨n, hn⟩ := h.returns noSpi _ (fun _ => false) initialDevice rfl hp
    ⟨0, Nat.le_add_right _ _, rfl⟩
  rw [sx126xHalWaitOnBusy] at hn
  exact not_returns_of_wrap (d := initialDevice) rfl (by decide) (by decide)
    (Nat.add_zero _) hn

end BusyWait
