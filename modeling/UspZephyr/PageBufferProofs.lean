import UspZephyr.ContextStorageProofs

/-! # The bounds of `page_buffer`

    `flash_read_modify_write` places the data by the page the DEVICE reports,
    and bounds it by `PAGE_BUFFER_SIZE`, a compile-time constant of another
    device-tree node.  This module lists, for every turn of the loop and for the
    padded write, the accesses to `page_buffer` and the unsigned subtractions,
    and says for which page layouts all of them are in range
    (`storeSafe_iff`): the page size need not be `PAGE_BUFFER_SIZE`, but no
    byte stored may lie that far into its page.

    The loop that starts a turn exactly `PAGE_BUFFER_SIZE` bytes into a page
    copies nothing and never ends. -/

namespace PageBuffer

open WordArithmetic Flash ContextStorage

/-- An access to `len` bytes of the buffer from position `pos` on. -/
structure Access where
  pos : Nat
  len : Nat

/-- A subtraction of unsigned values. -/
structure Subtraction where
  minuend : Nat
  subtrahend : Nat

/-- Every access stays within a buffer of `bufferSize` bytes. -/
def InBounds (bufferSize : Nat) (accesses : List Access) : Prop :=
  ∀ a ∈ accesses, a.pos + a.len ≤ bufferSize

/-- No subtraction wraps. -/
def NoUnderflow (subtractions : List Subtraction) : Prop :=
  ∀ s ∈ subtractions, s.subtrahend ≤ s.minuend

instance (n : Nat) (as : List Access) : Decidable (InBounds n as) :=
  inferInstanceAs (Decidable (∀ a ∈ as, _))

instance (ss : List Subtraction) : Decidable (NoUnderflow ss) :=
  inferInstanceAs (Decidable (∀ s ∈ ss, _))

variable (cfg : StorageConfig)

/-! ## What the code accesses -/

/-- The accesses of one turn: `memset`, the page read, `memcpy`, the page
    write. -/
def turnAccesses (offset size remaining : Nat) : List Access :=
  let offsetInData := u32Sub size remaining
  [⟨0, cfg.pageBufferSize⟩,
    ⟨0, cfg.pageBufferSize⟩,
    ⟨offsetInPage cfg offset offsetInData,
      turnLength cfg offset offsetInData remaining⟩,
    ⟨0, cfg.pageBufferSize⟩]

/-- The subtractions of one turn, in the order of the source. -/
def turnSubtractions (offset size remaining : Nat) : List Subtraction :=
  let offsetInData := u32Sub size remaining
  [⟨size, remaining⟩,
    ⟨(cfg.pageInfo (cfg.area.faOff + offset + offsetInData)).startOffset,
      cfg.area.faOff⟩,
    ⟨u32Add offset offsetInData, pageOffsetInFa cfg offset offsetInData⟩,
    ⟨cfg.pageBufferSize, offsetInPage cfg offset offsetInData⟩,
    ⟨remaining, turnLength cfg offset offsetInData remaining⟩]

/-- The loop from `remaining` on: every turn is in range, and one that is not
    the last stores something.  `False` when `fuel` turns do not end it. -/
def LoopSafe (offset size : Nat) : Nat → Nat → Prop
  | 0, _ => False
  | fuel + 1, remaining =>
      let rest := u32Sub remaining
        (turnLength cfg offset (u32Sub size remaining) remaining)
      InBounds cfg.pageBufferSize (turnAccesses cfg offset size remaining)
        ∧ NoUnderflow (turnSubtractions cfg offset size remaining)
        ∧ (0 < rest → rest < remaining ∧ LoopSafe offset size fuel rest)

/-- The accesses of the padded write: the reads of padding there are, `memcpy`
    and the write. -/
def paddedAccesses (realOffset size : Nat) : List Access :=
  let padding := realOffset % cfg.minFlashWriteSizeBytes
  (if padding ≠ 0 then [⟨0, padding⟩] else [])
    ++ (if u32Add size padding < cfg.minFlashWriteSizeBytes then
          [⟨padding + size, cfg.minFlashWriteSizeBytes - (padding + size)⟩]
        else [])
    ++ [⟨padding, size⟩, ⟨0, realWriteSize cfg realOffset size⟩]

/-- The subtractions of the padded write. -/
def paddedSubtractions (realOffset size : Nat) : List Subtraction :=
  let padding := realOffset % cfg.minFlashWriteSizeBytes
  (if padding ≠ 0 then [⟨realOffset, padding⟩] else [])
    ++ (if u32Add size padding < cfg.minFlashWriteSizeBytes then
          [⟨cfg.minFlashWriteSizeBytes, padding + size⟩]
        else [])
    ++ [⟨realOffset, padding⟩]

/-- `smtc_modem_hal_context_store` is in range throughout, and ends. -/
def StoreSafe (ctxType : ModemContextType) (offset size : Nat) : Prop :=
  let realOffset := privHalContextAddress ctxType offset
  if realOffset < addrStoreAndForwardContextOffset then
    LoopSafe cfg realOffset size (size + 1) size
  else
    InBounds cfg.pageBufferSize (paddedAccesses cfg realOffset size)
      ∧ NoUnderflow (paddedSubtractions cfg realOffset size)

/-! ## What the device reports -/

/-- The device cuts the addresses of the partition into pages, of any sizes. -/
structure DeviceLayout (cfg : StorageConfig) : Prop where
  buffer_lt : cfg.pageBufferSize < 4294967296
  end_lt : cfg.area.faOff + cfg.area.faSize < 4294967296
  start_lt : ∀ x, (cfg.pageInfo x).startOffset < 4294967296
  start_le : ∀ x, cfg.area.faOff ≤ x → x < cfg.area.faOff + cfg.area.faSize →
    (cfg.pageInfo x).startOffset ≤ x
  lt_end : ∀ x, cfg.area.faOff ≤ x → x < cfg.area.faOff + cfg.area.faSize →
    x < (cfg.pageInfo x).startOffset + (cfg.pageInfo x).size
  same : ∀ x y, cfg.area.faOff ≤ x → x < cfg.area.faOff + cfg.area.faSize →
    (cfg.pageInfo x).startOffset ≤ y →
    y < (cfg.pageInfo x).startOffset + (cfg.pageInfo x).size →
    cfg.pageInfo y = cfg.pageInfo x

/-- The page of the first byte begins in the partition, and every byte from the
    device address `x` on lies less than `PAGE_BUFFER_SIZE` bytes into its
    page. -/
def PagesFit (x size : Nat) : Prop :=
  (cfg.area.faOff ≤ (cfg.pageInfo x).startOffset
      ∧ (cfg.pageInfo x).startOffset ≤ x
      ∧ x - (cfg.pageInfo x).startOffset ≤ cfg.pageBufferSize)
    ∧ ∀ y, x ≤ y → y < x + size →
        y - (cfg.pageInfo y).startOffset < cfg.pageBufferSize

/-- The bytes of `page_buffer` from the place of the device address `x` on. -/
def room (x : Nat) : Nat :=
  cfg.pageBufferSize - (x - (cfg.pageInfo x).startOffset)

variable {cfg}

/-- Pages come in the order of their bytes. -/
theorem DeviceLayout.start_mono (hl : DeviceLayout cfg) {x y : Nat}
    (hx : cfg.area.faOff ≤ x) (hxy : x ≤ y)
    (hy : y < cfg.area.faOff + cfg.area.faSize) :
    (cfg.pageInfo x).startOffset ≤ (cfg.pageInfo y).startOffset := by
  have hxs := hl.start_le x hx (by omega)
  have hye := hl.lt_end y (by omega) hy
  by_cases h : (cfg.pageInfo y).startOffset ≤ x
  · -- the earlier byte is on the page of the later one
    exact Nat.le_of_eq (congrArg FlashPagesInfo.startOffset
      (hl.same y x (by omega) hy h (by omega)))
  · omega

/-- **PAGES THAT FIT, TURN BY TURN**: the first byte is placed in the buffer, and
    what the buffer has no room for begins on a later page and fits. -/
theorem pagesFit_iff (hl : DeviceLayout cfg) {x size : Nat}
    (hx : cfg.area.faOff ≤ x)
    (hend : x + size ≤ cfg.area.faOff + cfg.area.faSize) :
    PagesFit cfg x size
      ↔ (cfg.area.faOff ≤ (cfg.pageInfo x).startOffset
          ∧ (cfg.pageInfo x).startOffset ≤ x
          ∧ x - (cfg.pageInfo x).startOffset ≤ cfg.pageBufferSize)
        ∧ (0 < size - room cfg x → 0 < room cfg x
          ∧ PagesFit cfg (x + room cfg x) (size - room cfg x)) := by
  have hroom : room cfg x
      = cfg.pageBufferSize - (x - (cfg.pageInfo x).startOffset) := rfl
  constructor
  · rintro ⟨hfirst, hfits⟩
    refine ⟨hfirst, ?_⟩
    intro hpos
    have hhere := hfits x (Nat.le_refl _) (by omega)
    have hnext := hfits (x + room cfg x) (by omega) (by omega)
    -- the page of the next byte begins after this one
    have hlater : x < (cfg.pageInfo (x + room cfg x)).startOffset := by
      refine Nat.lt_of_not_le fun hle => ?_
      have hsame := hl.same (x + room cfg x) x (by omega) (by omega) hle
        (Nat.lt_of_le_of_lt (by omega) (hl.lt_end _ (by omega) (by omega)))
      rw [← hsame] at hnext
      omega
    refine ⟨by omega,
      ⟨by omega, hl.start_le _ (by omega) (by omega), by omega⟩, ?_⟩
    intro y hy hyend
    exact hfits y (by omega) (by omega)
  · rintro ⟨⟨hfa, hpage, hin⟩, hrest⟩
    refine ⟨⟨hfa, hpage, hin⟩, ?_⟩
    intro y hxy hy
    have hmono := hl.start_mono hx hxy (by omega)
    by_cases hnear : y < x + room cfg x
    · omega
    · obtain ⟨-, -, hlater⟩ := hrest (by omega)
      exact hlater y (by omega) (by omega)

section Turn

variable {offset done remaining : Nat} (hl : DeviceLayout cfg)
  (hend : offset + (done + remaining) ≤ cfg.area.faSize)

include hl hend

/-- Where in its page the byte at the device address `x` goes. -/
theorem offsetInPage_at
    (hfa : cfg.area.faOff
      ≤ (cfg.pageInfo (cfg.area.faOff + offset + done)).startOffset)
    (hpage : (cfg.pageInfo (cfg.area.faOff + offset + done)).startOffset
      ≤ cfg.area.faOff + offset + done) :
    offsetInPage cfg offset done = cfg.area.faOff + offset + done
      - (cfg.pageInfo (cfg.area.faOff + offset + done)).startOffset := by
  have hle := hl.end_lt
  rw [offsetInPage, pageOffsetInFa, u32Sub_eq hfa (by omega),
    u32Add_eq (by omega), u32Sub_eq (by omega) (by omega)]
  omega

/-- **ONE TURN** is in range exactly when the page of its first byte begins in
    the partition, at or before the byte and at most `PAGE_BUFFER_SIZE` bytes
    before it. -/
theorem turnSafe_iff :
    InBounds cfg.pageBufferSize
          (turnAccesses cfg offset (done + remaining) remaining)
        ∧ NoUnderflow (turnSubtractions cfg offset (done + remaining) remaining)
      ↔ cfg.area.faOff
            ≤ (cfg.pageInfo (cfg.area.faOff + offset + done)).startOffset
        ∧ (cfg.pageInfo (cfg.area.faOff + offset + done)).startOffset
            ≤ cfg.area.faOff + offset + done
        ∧ cfg.area.faOff + offset + done
            - (cfg.pageInfo (cfg.area.faOff + offset + done)).startOffset
            ≤ cfg.pageBufferSize := by
  have hbuf := hl.buffer_lt
  have hle := hl.end_lt
  have hstart := hl.start_lt (cfg.area.faOff + offset + done)
  have hdone : u32Sub (done + remaining) remaining = done := by
    rw [u32Sub_eq (by omega) (by omega), Nat.add_sub_cancel]
  have hsum : u32Add offset done = offset + done := u32Add_eq (by omega)
  simp only [InBounds, NoUnderflow, turnAccesses, turnSubtractions, hdone, hsum,
    List.forall_mem_cons, List.not_mem_nil, false_implies, implies_true,
    and_true]
  constructor
  · rintro ⟨-, -, hfa, hpage, hin, -⟩
    rw [pageOffsetInFa, u32Sub_eq hfa hstart] at hpage
    rw [offsetInPage_at hl hend hfa (by omega)] at hin
    exact ⟨hfa, by omega, hin⟩
  · rintro ⟨hfa, hpage, hin⟩
    have hoff := offsetInPage_at hl hend hfa hpage
    rw [turnLength, pageOffsetInFa, u32Sub_eq hfa hstart, hoff,
      u32Sub_eq hin hbuf]
    omega

/-- What a turn in range leaves to store. -/
theorem turnRest_at
    (hfa : cfg.area.faOff
      ≤ (cfg.pageInfo (cfg.area.faOff + offset + done)).startOffset)
    (hpage : (cfg.pageInfo (cfg.area.faOff + offset + done)).startOffset
      ≤ cfg.area.faOff + offset + done)
    (hin : cfg.area.faOff + offset + done
      - (cfg.pageInfo (cfg.area.faOff + offset + done)).startOffset
      ≤ cfg.pageBufferSize) :
    u32Sub remaining (turnLength cfg offset
        (u32Sub (done + remaining) remaining) remaining)
      = remaining - room cfg (cfg.area.faOff + offset + done) := by
  have hbuf := hl.buffer_lt
  have hle := hl.end_lt
  have hdone : u32Sub (done + remaining) remaining = done := by
    rw [u32Sub_eq (by omega) (by omega), Nat.add_sub_cancel]
  rw [hdone, turnLength, offsetInPage_at hl hend hfa hpage, u32Sub_eq hin hbuf,
    u32Sub_eq (Nat.min_le_left _ _) (by omega), room]
  omega

end Turn

section Loop

variable {offset : Nat} (hl : DeviceLayout cfg)

include hl

/-- **THE LOOP** is in range and ends exactly when the pages of what remains
    fit.  Induction on the fuel; the next turn starts where the last one
    stopped. -/
theorem loopSafe_iff (fuel remaining done : Nat) (hf : remaining < fuel)
    (hend : offset + (done + remaining) ≤ cfg.area.faSize) :
    LoopSafe cfg offset (done + remaining) fuel remaining
      ↔ PagesFit cfg (cfg.area.faOff + offset + done) remaining := by
  induction fuel generalizing remaining done with
  | zero => omega
  | succ fuel ih =>
      rw [pagesFit_iff hl (by omega) (by omega), ← turnSafe_iff hl hend,
        LoopSafe, ← and_assoc]
      refine and_congr_right ?_
      intro hturn
      obtain ⟨hfa, hpage, hin⟩ := (turnSafe_iff hl hend).mp hturn
      rw [turnRest_at hl hend hfa hpage hin]
      refine imp_congr_right ?_
      intro hpos
      rw [show remaining - room cfg (cfg.area.faOff + offset + done) < remaining
        ↔ 0 < room cfg (cfg.area.faOff + offset + done) by omega]
      refine and_congr_right ?_
      intro hroom
      -- the rest of the loop, from where this turn stopped
      have hrest := ih (remaining - room cfg (cfg.area.faOff + offset + done))
        (done + room cfg (cfg.area.faOff + offset + done)) (by omega) (by omega)
      rwa [show done + room cfg (cfg.area.faOff + offset + done) + (remaining
          - room cfg (cfg.area.faOff + offset + done)) = done + remaining by omega,
        ← Nat.add_assoc] at hrest

end Loop

/-- A loop in range returns. -/
theorem loopSafe_returns {offset size : Nat} (fails : Nat → Bool)
    (buffer : Nat → UInt8) :
    ∀ (fuel remaining : Nat) (st : Storage),
      LoopSafe cfg offset size fuel remaining →
      ∃ st', rmwLoop cfg fails offset buffer size fuel remaining st
        = some st' := by
  intro fuel
  induction fuel with
  | zero => intro remaining st h; exact nomatch h
  | succ fuel ih =>
      rintro remaining st ⟨-, -, hrest⟩
      show ∃ st', (if 0 < _ then rmwLoop cfg fails offset buffer size fuel _ _
        else some _) = some st'
      by_cases hpos
          : 0 < (rmwTurn cfg fails offset buffer size remaining st).2
      · rw [if_pos hpos]
        exact ih _ _ (hrest hpos).2
      · rw [if_neg hpos]
        exact ⟨_, rfl⟩

/-! ## The padded write -/

/-- The padded write is in range exactly when `page_buffer` holds what it
    writes. -/
theorem paddedSafe_iff {realOffset size : Nat}
    (hbound : realOffset + size < 4294967296) :
    InBounds cfg.pageBufferSize (paddedAccesses cfg realOffset size)
        ∧ NoUnderflow (paddedSubtractions cfg realOffset size)
      ↔ realWriteSize cfg realOffset size ≤ cfg.pageBufferSize := by
  have hle : realOffset % cfg.minFlashWriteSizeBytes ≤ realOffset :=
    Nat.mod_le _ _
  have hsum : u32Add size (realOffset % cfg.minFlashWriteSizeBytes)
      = size + realOffset % cfg.minFlashWriteSizeBytes := u32Add_eq (by omega)
  simp only [InBounds, NoUnderflow, paddedAccesses, paddedSubtractions,
    List.forall_mem_append, List.forall_mem_cons, realWriteSize, hsum]
  generalize realOffset % cfg.minFlashWriteSizeBytes = padding at hle
  by_cases hp : padding ≠ 0
  · by_cases hs : size + padding < cfg.minFlashWriteSizeBytes
    · simp [hp, hs]
      omega
    · simp [hp, hs]
      omega
  · by_cases hs : size + padding < cfg.minFlashWriteSizeBytes
    · simp [hp, hs]
      omega
    · simp [hp, hs]
      omega

/-! ## The whole store -/

/-- When a store of `size` bytes keeps `page_buffer` in bounds: below byte 8192
    its pages fit, and above `page_buffer` holds what is written. -/
def StoreFits (cfg : StorageConfig) (ctxType : ModemContextType)
    (offset size : Nat) : Prop :=
  if privHalContextAddress ctxType offset < addrStoreAndForwardContextOffset then
    PagesFit cfg (cfg.area.faOff + privHalContextAddress ctxType offset) size
  else
    realWriteSize cfg (privHalContextAddress ctxType offset) size
      ≤ cfg.pageBufferSize

/-- A store in range returns, whatever flash calls fail. -/
theorem storeSafe_returns {ctxType : ModemContextType} {offset size : Nat}
    (h : StoreSafe cfg ctxType offset size) (fails : Nat → Bool)
    (buffer : Nat → UInt8) (st : Storage) :
    ∃ st', smtcModemHalContextStore cfg fails ctxType offset buffer size st
      = some st' := by
  rw [smtcModemHalContextStore]
  by_cases hlt : privHalContextAddress ctxType offset
      < addrStoreAndForwardContextOffset
  · rw [StoreSafe, if_pos hlt] at h
    rw [if_pos hlt]
    exact loopSafe_returns fails buffer _ _ st h
  · rw [if_neg hlt]
    exact ⟨_, rfl⟩

/-- **WHEN `page_buffer` IS NOT OVERRUN**: every access of a store is within the
    buffer, no subtraction wraps and the loop makes progress and ends exactly
    when the store fits. -/
theorem storeSafe_iff (hl : DeviceLayout cfg) (ctxType : ModemContextType)
    (offset size : Nat)
    (hin : privHalContextAddress ctxType offset + size ≤ cfg.area.faSize) :
    (StoreSafe cfg ctxType offset size
        ∧ ∀ (fails : Nat → Bool) (buffer : Nat → UInt8) (st : Storage),
          ∃ st', smtcModemHalContextStore cfg fails ctxType offset buffer size
            st = some st')
      ↔ StoreFits cfg ctxType offset size := by
  have hle := hl.end_lt
  have hsafe : StoreSafe cfg ctxType offset size
      ↔ StoreFits cfg ctxType offset size := by
    rw [StoreSafe, StoreFits]
    by_cases hlt : privHalContextAddress ctxType offset
        < addrStoreAndForwardContextOffset
    · have hloop : LoopSafe cfg (privHalContextAddress ctxType offset)
          (0 + size) (size + 1) size ↔ PagesFit cfg (cfg.area.faOff
            + privHalContextAddress ctxType offset + 0) size :=
        loopSafe_iff hl _ _ _ (Nat.lt_succ_self _) (by omega)
      rw [Nat.zero_add, Nat.add_zero] at hloop
      rw [if_pos hlt, if_pos hlt]
      exact hloop
    · rw [if_neg hlt, if_neg hlt]
      exact paddedSafe_iff (by omega)
  constructor
  · rintro ⟨h, -⟩
    exact hsafe.mp h
  · intro h
    exact ⟨hsafe.mpr h, storeSafe_returns (hsafe.mpr h)⟩

/-- Pages of one size, at multiples of it. -/
theorem DeviceLayout.uniform (page : Nat) (hpage : 0 < page)
    (hbuffer : cfg.pageBufferSize < 4294967296)
    (hend : cfg.area.faOff + cfg.area.faSize < 4294967296)
    (hinfo : ∀ x, cfg.pageInfo x = ⟨x / page * page % 4294967296, page⟩) :
    DeviceLayout cfg := by
  have hstart : ∀ x, x < 4294967296 →
      cfg.pageInfo x = ⟨x / page * page, page⟩ := by
    intro x hx
    have hle := Nat.div_mul_le_self x page
    rw [hinfo, Nat.mod_eq_of_lt (by omega)]
  refine ⟨hbuffer, hend, ?_, ?_, ?_, ?_⟩
  · intro x
    rw [hinfo]
    exact Nat.mod_lt _ (by decide)
  · intro x _ hx
    rw [hstart x (by omega)]
    exact Nat.div_mul_le_self x page
  · intro x _ hx
    have hdiv := Nat.div_add_mod x page
    have hmod := Nat.mod_lt x hpage
    rw [Nat.mul_comm] at hdiv
    rw [hstart x (by omega)]
    show x < x / page * page + page
    omega
  · intro x y _ hx hy hy'
    rw [hstart x (by omega)] at hy hy'
    have hsame : y / page = x / page := by
      refine Nat.div_eq_of_lt_le hy ?_
      rwa [Nat.succ_mul]
    rw [hinfo, hinfo, hsame]

/-- Pages no larger than `page_buffer` always fit, in a partition that starts
    with a page. -/
theorem pagesFit_of_small_pages (hl : DeviceLayout cfg)
    (hpage : ∀ x, (cfg.pageInfo x).size ≤ cfg.pageBufferSize)
    (hfirst : (cfg.pageInfo cfg.area.faOff).startOffset = cfg.area.faOff)
    {x size : Nat} (hx : cfg.area.faOff ≤ x) (hsize : 0 < size)
    (hend : x + size ≤ cfg.area.faOff + cfg.area.faSize) :
    PagesFit cfg x size := by
  have hfit : ∀ y, x ≤ y → y < x + size →
      y - (cfg.pageInfo y).startOffset < cfg.pageBufferSize := by
    intro y hxy hy
    have hlt := hl.lt_end y (by omega) (by omega)
    have hle := hl.start_le y (by omega) (by omega)
    have := hpage y
    omega
  have hmono := hl.start_mono (Nat.le_refl _) hx (by omega)
  have hfit' := hfit x (Nat.le_refl _) (by omega)
  exact ⟨⟨by omega, hl.start_le x hx (by omega), by omega⟩, hfit⟩

/-- Pages of 8 KiB under a `page_buffer` of 4 KiB. -/
def largePagePartition : StorageConfig where
  area := ⟨1032192, 16384⟩
  cell := nor
  pageInfo := fun x => ⟨x / 8192 * 8192 % 4294967296, 8192⟩
  pageBufferSize := 4096
  minFlashWriteSizeBytes := 8

theorem largePagePartition_layout : DeviceLayout largePagePartition :=
  .uniform 8192 (by decide) (by decide) (by decide) fun _ => rfl

/-- Stores in the first half of a page of 8 KiB are in range. -/
theorem storeSafe_first_half :
    StoreSafe largePagePartition .keyModem 4 100 := by
  refine ((storeSafe_iff largePagePartition_layout .keyModem 4 100
    (by decide)).mpr ⟨⟨by decide, by decide, by decide⟩, ?_⟩).1
  intro y hy hy'
  have h1 : 1032192 + 260 ≤ y := hy
  have h2 : y < 1032192 + 260 + 100 := hy'
  show y - y / 8192 * 8192 % 4294967296 < 4096
  omega

/-- **STORES IN THE SECOND HALF ARE NOT**: FUOTA byte 1 is copied to position
    4097 of a buffer of 4096 bytes, and the store of FUOTA byte 0 never
    returns. -/
theorem second_half_overruns :
    DeviceLayout largePagePartition
      ∧ privHalContextAddress .fuota 1 + 1 ≤ largePagePartition.area.faSize
      ∧ ¬ StoreSafe largePagePartition .fuota 1 1
      ∧ smtcModemHalContextStore largePagePartition noFailure .fuota 0
          (fun _ => 0) 1 (filledStorage 0xFF) = none := by
  refine ⟨largePagePartition_layout, by decide, ?_, rfl⟩
  intro h
  exact absurd h.1 (by decide)

end PageBuffer
