import Mathlib.Data.List.Nodup
import Mathlib.Data.List.TakeWhile
import Mathlib.Logic.Function.Basic

/-! # Mutexes that their owner may lock again

    The mutexes of the kernel: one owner, a count of the locks that it has not
    undone, and the threads that pend.  The unlock that would free the mutex hands
    it to the first of them.

    `Held` relates a mutex to the number of times that each thread is inside and to
    the threads that pend.  `Held.lock`, `Held.pend` and `Held.unlock` are the rules
    for a thread that goes in, waits and goes out, `Held.unique` is mutual exclusion
    and `Held.available` says when a lock blocks. -/

namespace KMutex

variable {X : Type} [DecidableEq X]

/-- `struct k_mutex`. -/
structure Mutex (X : Type) where
  owner : Option X
  lockCount : Nat
  /-- `wait_q`, the first to get the mutex first. -/
  waiters : List X
  deriving DecidableEq

/-- `K_MUTEX_DEFINE`. -/
def Mutex.free : Mutex X := ⟨none, 0, []⟩

/-- `k_mutex_lock` with `K_FOREVER`; `none` when it blocks. -/
def Mutex.lock (m : Mutex X) (x : X) : Option (Mutex X) :=
  if m.lockCount = 0 ∨ m.owner = some x then
    some { m with owner := some x, lockCount := m.lockCount + 1 }
  else none

/-- The thread that it blocks pends, at the place in the queue that its priority
    has. -/
def Mutex.pend (m : Mutex X) (x : X) (place : Nat) : Mutex X :=
  { m with waiters := m.waiters.take place ++ x :: m.waiters.drop place }

/-- What its last unlock leaves: the first thread that pends is the owner. -/
def Mutex.handOver : (waiters : List X) → Mutex X
  | [] => .free
  | y :: rest => ⟨some y, 1, rest⟩

/-- `k_mutex_unlock`, which refuses a thread that is not the owner; with the thread
    that it makes ready. -/
def Mutex.unlock (m : Mutex X) (x : X) : Mutex X × Option X :=
  if m.owner = some x then
    if m.lockCount > 1 then ({ m with lockCount := m.lockCount - 1 }, none)
    else (.handOver m.waiters, m.waiters.head?)
  else (m, none)

/-- The owner, and the threads that pend in front of `x`; all of them when `x` does
    not pend. -/
def Mutex.ahead (m : Mutex X) (x : X) : List X :=
  m.owner.toList ++ m.waiters.takeWhile fun y => y ≠ x

/-- How often each thread is inside, and which threads pend. -/
structure Held (m : Mutex X) (depth : X → Nat) (pends : X → Bool) : Prop where
  depth : ∀ x, depth x = if m.owner = some x then m.lockCount else 0
  owner : m.lockCount ≠ 0 ↔ ∃ x, m.owner = some x
  pends : ∀ x, pends x = true ↔ x ∈ m.waiters
  nodup : m.waiters.Nodup
  busy : m.waiters ≠ [] → m.lockCount ≠ 0
  outside : ∀ x ∈ m.waiters, m.owner ≠ some x

theorem held_free : Held (Mutex.free : Mutex X) (fun _ => 0) fun _ => false where
  depth _ := rfl
  owner := ⟨fun h => absurd rfl h, nofun⟩
  pends _ := ⟨nofun, nofun⟩
  nodup := List.nodup_nil
  busy h := absurd rfl h
  outside _ h := absurd h List.not_mem_nil

variable {m m' : Mutex X} {depth depth' : X → Nat} {pends pends' : X → Bool}

theorem Held.congr (h : Held m depth pends) (hdepth : ∀ x, depth' x = depth x)
    (hpends : ∀ x, pends' x = pends x) : Held m depth' pends' where
  depth x := (hdepth x).trans (h.depth x)
  owner := h.owner
  pends x := by rw [hpends x]; exact h.pends x
  nodup := h.nodup
  busy := h.busy
  outside := h.outside

theorem Held.owner_of_pos (h : Held m depth pends) {x : X} (hx : 0 < depth x) :
    m.owner = some x := by
  by_cases howner : m.owner = some x
  · exact howner
  · rw [h.depth x, if_neg howner] at hx
    exact absurd hx (Nat.lt_irrefl 0)

theorem Held.pos_of_owner (h : Held m depth pends) {x : X}
    (hx : m.owner = some x) : 0 < depth x := by
  rw [h.depth x, if_pos hx]
  exact Nat.pos_of_ne_zero (h.owner.mpr ⟨x, hx⟩)

/-- **MUTUAL EXCLUSION**: at most one thread is inside. -/
theorem Held.unique (h : Held m depth pends) {x y : X} (hx : 0 < depth x)
    (hy : 0 < depth y) : x = y :=
  Option.some.inj ((h.owner_of_pos hx).symm.trans (h.owner_of_pos hy))

/-- Who is not inside does not own it, unless nobody is inside. -/
theorem Held.depth_of_ne (h : Held m depth pends) {x y : X}
    (hx : m.owner = some x) (hy : y ≠ x) : depth y = 0 := by
  rw [h.depth y, if_neg fun hc => hy (Option.some.inj (hc.symm.trans hx))]

/-- Who does not get in knows who is inside. -/
theorem Held.available (h : Held m depth pends) {x : X} :
    m.lock x = none ↔ ∃ y, y ≠ x ∧ m.owner = some y ∧ 0 < depth y := by
  rw [Mutex.lock]
  constructor
  · intro hnone
    split at hnone
    · cases hnone
    · next hbusy =>
        obtain ⟨y, hy⟩ := h.owner.mp fun hzero => hbusy (Or.inl hzero)
        refine ⟨y, fun hyx => hbusy (Or.inr (hyx ▸ hy)), hy, ?_⟩
        rw [h.depth y, if_pos hy]
        exact Nat.pos_of_ne_zero fun hzero => hbusy (Or.inl hzero)
  · rintro ⟨y, hyx, howner, hy⟩
    have hcount : depth y = m.lockCount := by
      rw [h.depth y, if_pos howner]
    refine if_neg ?_
    rintro (hzero | hx)
    · omega
    · exact hyx (Option.some.inj (howner.symm.trans hx))

/-- Who pends does not get in. -/
theorem Held.lock_of_pends (h : Held m depth pends) {x : X}
    (hx : pends x = true) : m.lock x = none := by
  have hmem := (h.pends x).mp hx
  have hbusy := h.busy (List.ne_nil_of_mem hmem)
  refine if_neg ?_
  rintro (hzero | howner)
  · exact hbusy hzero
  · exact h.outside x hmem howner

/-- One thread goes in, or once more. -/
theorem Held.lock (h : Held m depth pends) {x : X} (hlock : m.lock x = some m')
    (hx : depth' x = depth x + 1) (hother : ∀ y, y ≠ x → depth' y = depth y) :
    Held m' depth' pends := by
  have hpends : ∀ y ∈ m.waiters, y ≠ x := by
    rintro y hy rfl
    rw [h.lock_of_pends ((h.pends y).mpr hy)] at hlock
    cases hlock
  rw [Mutex.lock] at hlock
  split at hlock
  · next hfree =>
      obtain rfl := Option.some.inj hlock
      refine ⟨fun y => ?_, ⟨fun _ => ⟨x, rfl⟩, fun _ => Nat.succ_ne_zero _⟩,
        h.pends, h.nodup, fun _ => Nat.succ_ne_zero _,
        fun y hy hc => hpends y hy (Option.some.inj hc).symm⟩
      by_cases hy : y = x
      · subst hy
        rw [hx, h.depth y, if_pos rfl]
        rcases hfree with hzero | howner
        · split
          · rfl
          · show 0 + 1 = m.lockCount + 1
            omega
        · rw [if_pos howner]
      · have hne : (some x : Option X) ≠ some y := fun hc =>
          hy (Option.some.inj hc).symm
        rw [hother y hy, h.depth y, if_neg hne]
        rcases hfree with hzero | howner
        · split
          · exact hzero
          · rfl
        · exact if_neg (howner ▸ hne)
  · cases hlock

/-- Another one pends. -/
theorem Held.pend (h : Held m depth pends) {x : X} (hlock : m.lock x = none)
    (hout : pends x = false) (place : Nat) (hx : pends' x = true)
    (hother : ∀ y, y ≠ x → pends' y = pends y) :
    Held (m.pend x place) depth pends' := by
  have hperm : (m.pend x place).waiters.Perm (x :: m.waiters) := by
    have hmiddle := @List.perm_middle _ x (m.waiters.take place)
      (m.waiters.drop place)
    rw [List.take_append_drop] at hmiddle
    exact hmiddle
  have hfresh : x ∉ m.waiters := by
    intro hmem
    rw [(h.pends x).mpr hmem] at hout
    cases hout
  obtain ⟨y, hyx, howner, hy⟩ := h.available.mp hlock
  refine ⟨h.depth, h.owner, fun z => ?_, ?_, fun _ => ?_, fun z hz => ?_⟩
  · rw [hperm.mem_iff, List.mem_cons]
    by_cases hzx : z = x
    · subst hzx
      exact ⟨fun _ => Or.inl rfl, fun _ => hx⟩
    · rw [hother z hzx, h.pends z, or_iff_right hzx]
  · exact hperm.nodup_iff.mpr (List.nodup_cons.mpr ⟨hfresh, h.nodup⟩)
  · show m.lockCount ≠ 0
    rw [h.depth y, if_pos howner] at hy
    exact Nat.ne_of_gt hy
  · show m.owner ≠ some z
    rcases List.mem_cons.mp (hperm.mem_iff.mp hz) with rfl | hmem
    · exact fun hc => hyx (Option.some.inj (howner.symm.trans hc))
    · exact h.outside z hmem

/-- The last unlock makes the first thread that pends ready, and no other one
    does. -/
theorem Held.unlock_cases (h : Held m depth pends) {x : X} (hpos : 0 < depth x) :
    (1 < depth x
        ∧ m.unlock x = ({ m with lockCount := m.lockCount - 1 }, none))
      ∨ (depth x = 1 ∧ m.unlock x = (.handOver m.waiters, m.waiters.head?)) := by
  have howner := h.owner_of_pos hpos
  have hcount : depth x = m.lockCount := by
    rw [h.depth x, if_pos howner]
  rw [Mutex.unlock, if_pos howner]
  by_cases hmore : m.lockCount > 1
  · exact Or.inl ⟨hcount ▸ hmore, if_pos hmore⟩
  · exact Or.inr ⟨by omega, if_neg hmore⟩

/-- The thread that becomes ready was pending, and the one that goes out is out. -/
theorem Held.unlock_ready (h : Held m depth pends) {x y : X}
    (hpos : 0 < depth x) (hy : (m.unlock x).2 = some y) :
    depth x = 1 ∧ y ≠ x ∧ pends y = true := by
  rcases h.unlock_cases hpos with ⟨-, hunlock⟩ | ⟨hone, hunlock⟩
  · rw [hunlock] at hy
    cases hy
  · rw [hunlock] at hy
    have hmem : y ∈ m.waiters := List.mem_of_mem_head? hy
    refine ⟨hone, ?_, (h.pends y).mpr hmem⟩
    rintro rfl
    exact h.outside y hmem (h.owner_of_pos hpos)

/-- A thread goes out, for good or once, and the first that pends goes in. -/
theorem Held.unlock (h : Held m depth pends) {x : X} (hpos : 0 < depth x)
    (hx : depth' x + 1 = depth x)
    (hother : ∀ y, y ≠ x →
      depth' y = depth y + if (m.unlock x).2 = some y then 1 else 0)
    (hpends : ∀ y, pends' y = (pends y && (m.unlock x).2 ≠ some y)) :
    Held (m.unlock x).1 depth' pends' := by
  have howner := h.owner_of_pos hpos
  have hcount : depth x = m.lockCount := by
    rw [h.depth x, if_pos howner]
  rcases h.unlock_cases hpos with ⟨hmore, hunlock⟩ | ⟨hone, hunlock⟩
  · rw [hunlock] at hother hpends ⊢
    have hleft : m.lockCount - 1 ≠ 0 := by omega
    refine ⟨fun y => ?_, ⟨fun _ => ⟨x, howner⟩, fun _ => hleft⟩, fun y => ?_,
      h.nodup, fun _ => hleft, h.outside⟩
    · show depth' y = if m.owner = some y then m.lockCount - 1 else 0
      by_cases hy : y = x
      · subst hy
        rw [if_pos howner]
        omega
      · have hne : m.owner ≠ some y := fun hc =>
          hy (Option.some.inj (howner.symm.trans hc)).symm
        rw [if_neg hne, hother y hy, h.depth_of_ne howner hy]
        rfl
    · rw [hpends y]
      simpa using h.pends y
  · rw [hunlock] at hother hpends ⊢
    dsimp only at hother hpends ⊢
    cases hwaiters : m.waiters with
    | nil =>
        rw [hwaiters] at hother hpends
        refine held_free.congr (fun y => ?_) fun y => ?_
        · by_cases hy : y = x
          · subst hy
            omega
          · rw [hother y hy, h.depth_of_ne howner hy]
            rfl
        · rw [hpends y]
          cases hp : pends y with
          | false => rfl
          | true =>
              have hmem := (h.pends y).mp hp
              rw [hwaiters] at hmem
              cases hmem
    | cons z rest =>
        rw [hwaiters] at hother hpends
        have hnodup := h.nodup
        rw [hwaiters, List.nodup_cons] at hnodup
        have hz : z ∈ m.waiters := hwaiters ▸ List.mem_cons_self
        have hzx : z ≠ x := by
          rintro rfl
          exact h.outside z hz howner
        refine ⟨fun y => ?_, ⟨fun _ => ⟨z, rfl⟩, fun _ => Nat.one_ne_zero⟩,
          fun y => ?_, hnodup.2, fun _ => Nat.one_ne_zero, fun y hy hc => ?_⟩
        · show depth' y = if some z = some y then 1 else 0
          by_cases hy : y = x
          · subst hy
            rw [if_neg fun hc => hzx (Option.some.inj hc)]
            omega
          · rw [hother y hy, h.depth_of_ne howner hy]
            exact Nat.zero_add _
        · have hmem := h.pends y
          rw [hwaiters, List.mem_cons] at hmem
          rw [hpends y, Bool.and_eq_true, hmem, decide_eq_true_iff]
          show (y = z ∨ y ∈ rest) ∧ some z ≠ some y ↔ y ∈ rest
          constructor
          · rintro ⟨rfl | hy, hne⟩
            · exact absurd rfl hne
            · exact hy
          · intro hy
            refine ⟨Or.inr hy, fun hc => hnodup.1 ?_⟩
            rw [Option.some.inj hc]
            exact hy
        · obtain rfl := Option.some.inj hc
          exact hnodup.1 hy

/-! ## The queue -/

/-- The queue around a thread that pends. -/
theorem Held.split (h : Held m depth pends) {x : X} (hx : pends x = true) :
    ∃ o front back, m.owner = some o ∧ m.waiters = front ++ x :: back
      ∧ m.ahead x = o :: front := by
  have hmem := (h.pends x).mp hx
  obtain ⟨o, ho⟩ := h.owner.mp (h.busy (List.ne_nil_of_mem hmem))
  obtain ⟨front, back, hsplit, hfront⟩ := List.eq_append_cons_of_mem hmem
  refine ⟨o, front, back, ho, hsplit, ?_⟩
  rw [Mutex.ahead, ho, hsplit, List.takeWhile_append_of_pos ?_,
    List.takeWhile_cons_of_neg (by simp), List.append_nil]
  · rfl
  · intro y hy
    have hne : y ≠ x := fun hyx => hfront (hyx ▸ hy)
    simpa using hne

/-- All of it is in front of a thread that does not pend. -/
theorem Held.ahead_of_out (h : Held m depth pends) {x o : X}
    (hx : pends x = false) (ho : m.owner = some o) :
    m.ahead x = o :: m.waiters := by
  have hall : m.waiters.takeWhile (fun y => decide (y ≠ x)) = m.waiters := by
    rw [List.takeWhile_eq_self_iff]
    intro y hy
    refine decide_eq_true ?_
    rintro rfl
    rw [(h.pends y).mpr hy] at hx
    cases hx
  rw [Mutex.ahead, hall, ho]
  rfl

/-- A thread is not in front of itself. -/
theorem not_mem_ahead {x : X} (hx : m.owner ≠ some x) : x ∉ m.ahead x := by
  intro hmem
  rcases List.mem_append.mp hmem with howner | hwaiter
  · exact hx (Option.mem_toList.mp howner)
  · have htest := List.mem_takeWhile_imp hwaiter
    simp at htest

/-- And everybody is there once. -/
theorem Held.ahead_nodup (h : Held m depth pends) (x : X) :
    (m.ahead x).Nodup := by
  have hfront := h.nodup.sublist
    (List.takeWhile_sublist fun y => decide (y ≠ x))
  rw [Mutex.ahead]
  cases howner : m.owner with
  | none => exact hfront
  | some o =>
      refine List.nodup_cons.mpr ⟨fun hmem => ?_, hfront⟩
      exact h.outside o ((List.takeWhile_sublist _).subset hmem) howner

/-- Nobody is in front of who gets in. -/
theorem Held.ahead_of_free (h : Held m depth pends) {x : X}
    (howner : m.owner = none) : m.ahead x = [] := by
  have hwaiters : m.waiters = [] := by
    by_contra hne
    obtain ⟨o, ho⟩ := h.owner.mp (h.busy hne)
    rw [howner] at ho
    cases ho
  rw [Mutex.ahead, howner, hwaiters]
  rfl

end KMutex
