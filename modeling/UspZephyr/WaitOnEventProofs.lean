/-! # Waiting on semaphores and an event

    `wait_on_sems_and_event` counts its poll events, fills them and reads them
    back by three computations of their own, and asks of the event's slot the
    state `K_POLL_STATE_DATA_AVAILABLE`, which `k_poll` gives to queues.

    Accesses to the array of poll events are checked, and a slot is not
    initialised before the code does it.  `meetsCodes_iff` is about every
    input. -/

namespace WaitOnEvent

variable {σ : Type} {semCount : Nat}

/-! ## The poll events -/

/-- `K_POLL_STATE_*`. -/
inductive PollState where
  | notReady
  | signaled
  | semAvailable
  | dataAvailable
  deriving DecidableEq

/-- What is polled: a semaphore with the type `K_POLL_TYPE_SEM_AVAILABLE`, or
    the event with `K_POLL_TYPE_SIGNAL`. -/
inductive PollObject (σ : Type) where
  | sem (sem : σ)
  | event

/-- A `struct k_poll_event` on the stack: what lies there, or what
    `k_poll_event_init` made of it. -/
inductive Slot (σ : Type) where
  | uninit (state : PollState)
  | init (obj : PollObject σ) (state : PollState)

def Slot.state : Slot σ → PollState
  | .uninit state => state
  | .init _ state => state

def Slot.IsInit : Slot σ → Prop
  | .uninit _ => False
  | .init _ _ => True

/-- `k_poll_event_init`. -/
def kPollEventInit (obj : PollObject σ) : Slot σ := .init obj .notReady

/-- What the call meets: the result of `k_poll`, what is ready, and the bits
    that are posted. -/
structure Env (σ : Type) where
  pollRet : Int
  semReady : σ → Bool
  eventReady : Bool
  posted : UInt32

/-- `k_poll` marks a slot whose object is ready. -/
def Env.mark (env : Env σ) : Slot σ → Slot σ
  | .init (.sem sem) state =>
      .init (.sem sem) (if env.semReady sem then .semAvailable else state)
  | .init .event state =>
      .init .event (if env.eventReady then .signaled else state)
  | .uninit state => .uninit state

/-- `k_event_test`. -/
def Env.kEventTest (env : Env σ) (mask : UInt32) : UInt32 := env.posted &&& mask

/-! ## The call -/

/-- Write a slot inside the array. -/
def store (slots : List (Slot σ)) (i : Nat) (slot : Slot σ) :
    Option (List (Slot σ)) :=
  if i < slots.length then some (slots.set i slot) else none

/-- Read the state of a slot inside the array. -/
def stateAt (slots : List (Slot σ)) (i : Nat) : Option PollState :=
  slots[i]?.map Slot.state

/-- The loop that initialises the semaphores' slots from `event_index` on. -/
def initSems : List σ → List (Slot σ) → Nat → Option (List (Slot σ) × Nat)
  | [], slots, eventIndex => some (slots, eventIndex)
  | sem :: sems, slots, eventIndex => do
      let slots ← store slots eventIndex (kPollEventInit (.sem sem))
      initSems sems slots (eventIndex + 1)

/-- The loop over `n` slots from `i` on that looks for a semaphore. -/
def findSem (slots : List (Slot σ)) : Nat → Nat → Option (Option Nat)
  | 0, _ => some none
  | n + 1, i => do
      let state ← stateAt slots i
      if state = .semAvailable then some (some i) else findSem slots n (i + 1)

/-- The result, and the slots handed to `k_poll`. -/
structure Outcome (σ : Type) where
  ret : Int
  handed : List (Slot σ)

/-- The semaphores a loop guarded by `sems != NULL` goes over. -/
def semList (sems : Option (Vector σ semCount)) : List σ :=
  (sems.map Vector.toList).getD []

/-- The event's slot, if the pointer is not NULL. -/
def initEvent (event : Bool) (slots : List (Slot σ)) (eventIndex : Nat) :
    Option (List (Slot σ)) :=
  if event then store slots eventIndex (kPollEventInit .event) else some slots

/-- What is read back behind a successful poll; the `k_sem_take` before an index
    is returned does not change it. -/
def readBack (env : Env σ) (sems : Option (Vector σ semCount)) (event : Bool)
    (eventMask : UInt32) (polled : List (Slot σ)) : Option Int := do
  match ← findSem polled (semList sems).length 0 with
  | some i => some i
  | none =>
      if event then do
        let state ← stateAt polled semCount
        some (if state = .dataAvailable
          ∧ env.kEventTest eventMask &&& eventMask ≠ 0 then -4 else -3)
      else some (-3)

/-- `wait_on_sems_and_event`; `event` tells whether the pointer is not NULL, and
    `uninit` what lies on the stack.  No result is an access outside the
    array. -/
def waitOnSemsAndEvent (env : Env σ) (uninit : Nat → PollState)
    (sems : Option (Vector σ semCount)) (event : Bool) (eventMask : UInt32) :
    Option (Outcome σ) :=
  if (semCount = 0 ∨ sems.isNone = true) ∧ event = false then some ⟨-1, []⟩
  else do
    let totalCount := semCount + if event then 1 else 0
    let pollEvents := (List.range totalCount).map fun i => .uninit (uninit i)
    let (pollEvents, eventIndex) ← initSems (semList sems) pollEvents 0
    let pollEvents ← initEvent event pollEvents eventIndex
    if env.pollRet ≠ 0 then some ⟨-2, pollEvents⟩
    else
      (readBack env sems event eventMask (pollEvents.map env.mark)).map
        fun ret => ⟨ret, pollEvents⟩

/-! ## What is asked of it -/

/-- The poll succeeded, no semaphore is ready, and the event is, with a bit of
    the mask. -/
def OnlyEvent (env : Env σ) (sems : Option (Vector σ semCount)) (event : Bool)
    (eventMask : UInt32) : Prop :=
  env.pollRet = 0 ∧ (∀ sem ∈ semList sems, env.semReady sem = false)
    ∧ event = true ∧ env.eventReady = true ∧ env.posted &&& eventMask ≠ 0

/-- The result codes of the header, for an outcome. -/
structure Codes (env : Env σ) (sems : Option (Vector σ semCount)) (event : Bool)
    (eventMask : UInt32) (o : Outcome σ) : Prop where
  initialised : ∀ slot ∈ o.handed, slot.IsInit
  index : 0 ≤ o.ret → ∃ sem, (semList sems)[o.ret.toNat]? = some sem
    ∧ env.semReady sem = true
  triggered : o.ret = -4 ↔ OnlyEvent env sems event eventMask
  noSignal : o.ret = -3 → ¬ OnlyEvent env sems event eventMask

/-- No access leaves the array, and the codes are right. -/
def MeetsCodes (env : Env σ) (uninit : Nat → PollState)
    (sems : Option (Vector σ semCount)) (event : Bool) (eventMask : UInt32) :
    Prop :=
  ∃ o, waitOnSemsAndEvent env uninit sems event eventMask = some o
    ∧ Codes env sems event eventMask o

/-! ## The array -/

theorem initSems_eq (sems : List σ) (front rest : List (Slot σ))
    (h : sems.length ≤ rest.length) :
    initSems sems (front ++ rest) front.length
      = some (front ++ sems.map (fun sem => kPollEventInit (.sem sem))
        ++ rest.drop sems.length, front.length + sems.length) := by
  induction sems generalizing front rest with
  | nil =>
      rw [initSems, List.map_nil, List.append_nil]
      rfl
  | cons sem sems ih =>
      cases rest with
      | nil => cases h
      | cons slot rest =>
          have hstep := ih (front ++ [kPollEventInit (.sem sem)]) rest
            (Nat.le_of_succ_le_succ h)
          rw [List.append_assoc, List.length_append] at hstep
          rw [initSems, store, if_pos (by simp), Option.bind_eq_bind,
            Option.bind_some, List.set_append_right _ _ (Nat.le_refl _),
            Nat.sub_self]
          refine hstep.trans ?_
          simp [Nat.add_assoc, Nat.add_comm 1]

/-- The slots as they should be. -/
def slotsOf (sems : List σ) (event : Bool) : List (Slot σ) :=
  sems.map (fun sem => kPollEventInit (.sem sem))
    ++ if event then [kPollEventInit .event] else []

theorem slotsOf_isInit (sems : List σ) (event : Bool) :
    ∀ slot ∈ slotsOf sems event, slot.IsInit := by
  intro slot hslot
  rcases List.mem_append.mp hslot with h | h
  · obtain ⟨sem, -, rfl⟩ := List.mem_map.mp h
    trivial
  · cases event with
    | false => cases h
    | true =>
        rw [List.mem_singleton.mp h]
        trivial

/-- What the poll says of the semaphores. -/
theorem stateAt_sem (env : Env σ) {sems : List σ} (event : Bool) {j : Nat}
    {sem : σ} (hsem : sems[j]? = some sem) :
    stateAt ((slotsOf sems event).map env.mark) j
      = some (if env.semReady sem then .semAvailable else .notReady) := by
  have hj : j < sems.length := (List.getElem?_eq_some_iff.mp hsem).1
  rw [stateAt, List.getElem?_map, slotsOf,
    List.getElem?_append_left (by rwa [List.length_map]), List.getElem?_map, hsem]
  rfl

/-- It marks those that are ready. -/
theorem stateAt_semAvailable_iff (env : Env σ) {sems : List σ} (event : Bool)
    {j : Nat} {sem : σ} (hsem : sems[j]? = some sem) :
    stateAt ((slotsOf sems event).map env.mark) j = some .semAvailable
      ↔ env.semReady sem = true := by
  rw [stateAt_sem env event hsem, Option.some_inj]
  cases env.semReady sem with
  | true => exact ⟨fun _ => rfl, fun _ => rfl⟩
  | false => exact ⟨nofun, nofun⟩

/-- What the poll says of the event: it may be signaled, and nothing else. -/
theorem stateAt_event (env : Env σ) (sems : List σ) :
    stateAt ((slotsOf sems true).map env.mark) sems.length
      = some (if env.eventReady then .signaled else .notReady) := by
  rw [stateAt, List.getElem?_map, slotsOf,
    List.getElem?_append_right (Nat.le_of_eq (List.length_map _)),
    List.length_map, Nat.sub_self]
  rfl

/-- The loop finds a marked semaphore or there is none. -/
theorem findSem_cases (slots : List (Slot σ)) (n i : Nat)
    (h : i + n ≤ slots.length) :
    (∃ j, findSem slots n i = some (some j) ∧ i ≤ j ∧ j < i + n
        ∧ stateAt slots j = some .semAvailable)
      ∨ (findSem slots n i = some none ∧ ∀ j, i ≤ j → j < i + n →
        stateAt slots j ≠ some .semAvailable) := by
  induction n generalizing i with
  | zero => exact Or.inr ⟨rfl, fun j hij hj => absurd hj (by omega)⟩
  | succ n ih =>
      obtain ⟨state, hread⟩ : ∃ state, stateAt slots i = some state := by
        rw [stateAt, List.getElem?_eq_getElem (by omega), Option.map_some]
        exact ⟨_, rfl⟩
      rw [findSem, hread, Option.bind_eq_bind, Option.bind_some]
      by_cases hav : state = .semAvailable
      · rw [if_pos hav]
        exact Or.inl ⟨i, rfl, Nat.le_refl i, by omega, hread.trans (by rw [hav])⟩
      · rw [if_neg hav]
        rcases ih (i + 1) (by omega) with ⟨j, hj, hij, hlt, hstate⟩ | ⟨hj, hnone⟩
        · exact Or.inl ⟨j, hj, by omega, by omega, hstate⟩
        · refine Or.inr ⟨hj, ?_⟩
          intro k hik hk
          rcases Nat.eq_or_lt_of_le hik with rfl | hik
          · rw [hread]
            exact fun heq => hav (Option.some.inj heq)
          · exact hnone k hik (by omega)

/-! ## The result -/

/-- What lies on the stack behind the slots of the semaphores. -/
def restOf (uninit : Nat → PollState) (semCount : Nat) (event : Bool) :
    List (Slot σ) :=
  ((List.range (semCount + if event then 1 else 0)).map
    fun i => .uninit (uninit i)).drop semCount

/-- The event goes behind the semaphores. -/
theorem initEvent_eq (uninit : Nat → PollState) {sems : List σ} (event : Bool)
    (hlength : sems.length = semCount) :
    initEvent event (sems.map (fun sem => kPollEventInit (.sem sem))
        ++ restOf uninit semCount event) semCount
      = some (slotsOf sems event) := by
  have hsems : (sems.map fun sem => kPollEventInit (.sem sem)).length
      = semCount := by
    rw [List.length_map, hlength]
  cases event with
  | false =>
      have hrest : (restOf uninit semCount false : List (Slot σ)) = [] :=
        List.drop_eq_nil_of_le (by simp)
      rw [hrest]
      rfl
  | true =>
      have hrest : (restOf uninit semCount true : List (Slot σ))
          = [.uninit (uninit semCount)] := by
        rw [restOf, if_pos rfl, List.range_succ, List.map_append]
        exact List.drop_left' (by simp)
      rw [initEvent, if_pos rfl, hrest, store,
        if_pos (by rw [List.length_append, hsems]; simp),
        List.set_append_right _ _ (Nat.le_of_eq hsems), hsems, Nat.sub_self]
      rfl

/-- What is read back is a semaphore that is ready, or -3 if none is. -/
theorem readBack_cases (env : Env σ) {sems : Option (Vector σ semCount)}
    (event : Bool) (eventMask : UInt32)
    (hlength : (semList sems).length = semCount) :
    ∃ ret, readBack env sems event eventMask
        ((slotsOf (semList sems) event).map env.mark) = some ret
      ∧ ((∃ (j : Nat) (sem : σ), (semList sems)[j]? = some sem
          ∧ env.semReady sem = true ∧ ret = j)
        ∨ ((∀ sem ∈ semList sems, env.semReady sem = false) ∧ ret = -3)) := by
  have hslots : (semList sems).length
      ≤ ((slotsOf (semList sems) event).map env.mark).length := by
    rw [List.length_map, slotsOf, List.length_append, List.length_map]
    exact Nat.le_add_right _ _
  rw [readBack]
  rcases findSem_cases ((slotsOf (semList sems) event).map env.mark)
    (semList sems).length 0 (by rwa [Nat.zero_add]) with
    ⟨j, hj, -, hlt, hstate⟩ | ⟨hj, hnone⟩
  · rw [hj]
    refine ⟨j, rfl, Or.inl ?_⟩
    rw [Nat.zero_add] at hlt
    obtain ⟨sem, hsem⟩ : ∃ sem, (semList sems)[j]? = some sem :=
      ⟨_, List.getElem?_eq_getElem hlt⟩
    exact ⟨j, sem, hsem, (stateAt_semAvailable_iff env event hsem).mp hstate, rfl⟩
  · rw [hj]
    have hnotReady : ∀ sem ∈ semList sems, env.semReady sem = false := by
      intro sem hmem
      obtain ⟨j, hsem⟩ := List.getElem?_of_mem hmem
      have hlt : j < (semList sems).length :=
        (List.getElem?_eq_some_iff.mp hsem).1
      have hstate := hnone j (Nat.zero_le j) (by rwa [Nat.zero_add])
      exact Bool.eq_false_iff.mpr fun hready =>
        hstate ((stateAt_semAvailable_iff env event hsem).mpr hready)
    refine ⟨-3, ?_, Or.inr ⟨hnotReady, rfl⟩⟩
    cases event with
    | false => rfl
    | true =>
        -- the event's slot says signaled or not ready
        have hstate := stateAt_event env (semList sems)
        rw [hlength] at hstate
        rw [Option.bind_eq_bind, Option.bind_some]
        dsimp only
        rw [if_pos rfl, hstate]
        cases env.eventReady with
        | true => rfl
        | false => rfl

/-- What the call does if the semaphores counted are there. -/
theorem waitOnSemsAndEvent_cases (env : Env σ) (uninit : Nat → PollState)
    {sems : Option (Vector σ semCount)} {event : Bool} (eventMask : UInt32)
    (hparam : ¬ ((semCount = 0 ∨ sems.isNone = true) ∧ event = false))
    (hlength : (semList sems).length = semCount) :
    ∃ ret, waitOnSemsAndEvent env uninit sems event eventMask
        = some ⟨ret, slotsOf (semList sems) event⟩
      ∧ ((env.pollRet ≠ 0 ∧ ret = -2)
        ∨ (∃ (j : Nat) (sem : σ), (semList sems)[j]? = some sem
          ∧ env.semReady sem = true ∧ ret = j)
        ∨ ((∀ sem ∈ semList sems, env.semReady sem = false) ∧ ret = -3)) := by
  have hinit : initSems (semList sems) ((List.range
      (semCount + if event then 1 else 0)).map fun i => .uninit (uninit i)) 0
        = some ((semList sems).map (fun sem => kPollEventInit (.sem sem))
          ++ restOf uninit semCount event, semCount) := by
    have hfill := initSems_eq (semList sems) [] ((List.range
      (semCount + if event then 1 else 0)).map fun i => .uninit (uninit i))
      (by rw [List.length_map, List.length_range]; omega)
    rw [hlength, List.nil_append, List.nil_append, List.length_nil,
      Nat.zero_add] at hfill
    exact hfill
  rw [waitOnSemsAndEvent, if_neg hparam]
  simp only [hinit, initEvent_eq uninit event hlength, Option.bind_eq_bind,
    Option.bind_some]
  by_cases hret : env.pollRet ≠ 0
  · rw [if_pos hret]
    exact ⟨-2, rfl, Or.inl ⟨hret, rfl⟩⟩
  · rw [if_neg hret]
    obtain ⟨ret, hread, hcases⟩ := readBack_cases env event eventMask hlength
    rw [hread]
    exact ⟨ret, rfl, Or.inr hcases⟩

/-- A slot that is not initialised is handed over if semaphores are counted
    that are not there. -/
theorem uninit_handed {env : Env σ} {uninit : Nat → PollState}
    {eventMask : UInt32} {o : Outcome σ} (hcount : 0 < semCount)
    (h : waitOnSemsAndEvent env uninit (none : Option (Vector σ semCount)) true
      eventMask = some o) : ∃ slot ∈ o.handed, ¬ slot.IsInit := by
  have hmem : Slot.uninit (uninit 1) ∈ ((List.range (semCount + 1)).map
      fun i => (.uninit (uninit i) : Slot σ)).set 0 (kPollEventInit .event) := by
    refine List.mem_of_getElem? (i := 1) ?_
    rw [List.getElem?_set_ne Nat.zero_ne_one, List.getElem?_map,
      List.getElem?_range (by omega)]
    rfl
  have hhanded : o.handed = ((List.range (semCount + 1)).map
      fun i => (.uninit (uninit i) : Slot σ)).set 0 (kPollEventInit .event) := by
    rw [waitOnSemsAndEvent, if_neg (by rintro ⟨-, hevent⟩; cases hevent)] at h
    simp only [semList, Option.map_none, Option.getD_none, initSems, initEvent,
      if_true, store, List.length_map, List.length_range, Nat.succ_pos,
      Option.bind_eq_bind, Option.bind_some] at h
    by_cases hret : env.pollRet ≠ 0
    · rw [if_pos hret] at h
      cases h
      rfl
    · rw [if_neg hret] at h
      obtain ⟨ret, -, rfl⟩ := Option.map_eq_some_iff.mp h
      rfl
  rw [hhanded]
  exact ⟨_, hmem, id⟩

/-- Behind the check of the parameters the semaphores counted are there, unless
    only the event is. -/
theorem semList_length {sems : Option (Vector σ semCount)} {event : Bool}
    (hcounted : ¬ (sems = none ∧ 0 < semCount ∧ event = true))
    (hparam : ¬ ((semCount = 0 ∨ sems.isNone = true) ∧ event = false)) :
    (semList sems).length = semCount := by
  cases sems with
  | some sems => exact sems.length_toList
  | none =>
      cases event with
      | false => exact absurd ⟨Or.inr rfl, rfl⟩ hparam
      | true =>
          show 0 = semCount
          exact (Nat.eq_zero_of_not_pos fun hpos => hcounted ⟨rfl, hpos, rfl⟩).symm

/-- **THE EVENT IS NEVER REPORTED**: the result codes are right exactly if no
    semaphores are counted that are not there and the event is not what ended
    the wait. -/
theorem meetsCodes_iff (env : Env σ) (uninit : Nat → PollState)
    (sems : Option (Vector σ semCount)) (event : Bool) (eventMask : UInt32) :
    MeetsCodes env uninit sems event eventMask
      ↔ ¬ (sems = none ∧ 0 < semCount ∧ event = true)
        ∧ ¬ OnlyEvent env sems event eventMask := by
  constructor
  · rintro ⟨o, hcall, hcodes⟩
    have hcounted : ¬ (sems = none ∧ 0 < semCount ∧ event = true) := by
      rintro ⟨rfl, hcount, rfl⟩
      obtain ⟨slot, hslot, hnot⟩ := uninit_handed hcount hcall
      exact hnot (hcodes.initialised slot hslot)
    refine ⟨hcounted, ?_⟩
    intro honly
    have hparam : ¬ ((semCount = 0 ∨ sems.isNone = true) ∧ event = false) := by
      rintro ⟨-, hevent⟩
      exact absurd (hevent.symm.trans honly.2.2.1) nofun
    obtain ⟨ret, hret, hcases⟩ := waitOnSemsAndEvent_cases env uninit eventMask
      hparam (semList_length hcounted hparam)
    cases hcall.symm.trans hret
    have hfour : ret = -4 := hcodes.triggered.mpr honly
    rcases hcases with ⟨-, h⟩ | ⟨j, sem, -, -, h⟩ | ⟨-, h⟩
    · omega
    · omega
    · omega
  · rintro ⟨hcounted, hevent⟩
    by_cases hparam : (semCount = 0 ∨ sems.isNone = true) ∧ event = false
    · refine ⟨⟨-1, []⟩, if_pos hparam, nofun, ?_, ?_, ?_⟩
      · intro hpos
        exact absurd hpos (show ¬ (0 : Int) ≤ -1 by decide)
      · exact ⟨fun h => absurd h (show ¬ (-1 : Int) = -4 by decide),
          fun h => absurd h hevent⟩
      · exact fun _ => hevent
    · obtain ⟨ret, hret, hcases⟩ := waitOnSemsAndEvent_cases env uninit eventMask
        hparam (semList_length hcounted hparam)
      refine ⟨_, hret, slotsOf_isInit _ _, ?_, ?_, fun _ => hevent⟩
      · intro hpos
        dsimp only at hpos ⊢
        rcases hcases with ⟨-, h⟩ | ⟨j, sem, hsem, hready, h⟩ | ⟨-, h⟩
        · omega
        · rw [h, Int.toNat_natCast]
          exact ⟨sem, hsem, hready⟩
        · omega
      · refine ⟨?_, fun h => absurd h hevent⟩
        intro hfour
        dsimp only at hfour
        rcases hcases with ⟨-, h⟩ | ⟨j, sem, -, -, h⟩ | ⟨-, h⟩
        · omega
        · omega
        · omega

/-- **A POSTED BIT OF THE MASK IS NO SIGNAL**: one semaphore that is not ready,
    and the event with bit 0 posted. -/
theorem posted_event_no_signal :
    waitOnSemsAndEvent ⟨0, fun _ => false, true, 1⟩ (fun _ => .notReady)
        (some #v[()]) true 0xFFFFFFFF
          = some ⟨-3, [.init (.sem ()) .notReady, .init .event .notReady]⟩
      ∧ ¬ MeetsCodes ⟨0, fun _ => false, true, 1⟩ (fun _ => .notReady)
        (some #v[()]) true 0xFFFFFFFF := by
  refine ⟨rfl, ?_⟩
  rintro ⟨o, hcall, hcodes⟩
  cases hcall
  exact absurd (hcodes.noSignal rfl) (not_not_intro
    ⟨rfl, fun _ _ => rfl, rfl, rfl, by decide⟩)

end WaitOnEvent
