import UspZephyr.PageBufferProofs

/-! # The pages of store-and-forward

    Store-and-forward has what the partition holds behind byte 8192, and counts
    it in pages.  The page size is asked for at the DEVICE offset 8192, wherever
    the partition lies, and both it and the count pass through `uint16_t`.

    `geometryConsistent_iff` says for which layouts the count is right and each
    index erases one real page; the induction is on the index, a page after the
    other (`counted_page`).  A device with pages of 128 KiB divides by zero
    (`large_page_divides_by_zero`). -/

namespace StoreGeometry

open ByteMemory WordArithmetic Flash ContextStorage PageBuffer

variable (cfg : StorageConfig)

/-- `smtc_modem_hal_flash_get_page_size`. -/
def smtcModemHalFlashGetPageSize : Nat :=
  (cfg.pageInfo addrStoreAndForwardContextOffset).size % 65536

/-- `smtc_modem_hal_store_and_forward_get_number_of_pages`; `none` when it
    divides by zero. -/
def smtcModemHalStoreAndForwardGetNumberOfPages : Option Nat :=
  let pageSize := smtcModemHalFlashGetPageSize cfg
  let flashSize := cfg.area.faSize
  if pageSize = 0 then none
  else
    some (u32Sub flashSize addrStoreAndForwardContextOffset / pageSize % 65536)

/-- `smtc_modem_hal_context_flash_pages_erase`. -/
def smtcModemHalContextFlashPagesErase (fails : Nat → Bool)
    (ctxType : ModemContextType) (offset nbPage : Nat) (st : Storage) :
    Storage :=
  let realOffset := privHalContextAddress ctxType offset
  { st with
    flash := flashAreaErase cfg.area fails st.flash realOffset
      (smtcModemHalFlashGetPageSize cfg * nbPage) }

/-! ## What is asked for -/

/-- A page of the device that store-and-forward may have. -/
structure StorePage (page : FlashPagesInfo) : Prop where
  real : cfg.pageInfo page.startOffset = page
  behind : cfg.area.faOff + addrStoreAndForwardContextOffset ≤ page.startOffset
  inside : page.startOffset + page.size ≤ cfg.area.faOff + cfg.area.faSize

/-- Erasing the page `index` erases one such page and nothing else. -/
def ErasesOnePage (index : Nat) : Prop :=
  ∃ page, StorePage cfg page ∧ ∀ st : Storage,
    (smtcModemHalContextFlashPagesErase cfg noFailure .storeAndForward
        (index * smtcModemHalFlashGetPageSize cfg) 1 st).flash.cells
      = splice st.flash.cells page.startOffset page.size (fun _ => 0xFF)

/-- The number of pages exists, fits the partition, and counts real pages. -/
structure GeometryConsistent : Prop where
  divides : ∃ n, smtcModemHalStoreAndForwardGetNumberOfPages cfg = some n
  fits : ∀ n, smtcModemHalStoreAndForwardGetNumberOfPages cfg = some n →
    addrStoreAndForwardContextOffset ≤ cfg.area.faSize →
    addrStoreAndForwardContextOffset + n * smtcModemHalFlashGetPageSize cfg
      ≤ cfg.area.faSize
  short : ∀ n, smtcModemHalStoreAndForwardGetNumberOfPages cfg = some n →
    cfg.area.faSize < addrStoreAndForwardContextOffset → n = 0
  erases : ∀ n, smtcModemHalStoreAndForwardGetNumberOfPages cfg = some n →
    ∀ index, index < n → ErasesOnePage cfg index

/-! ## When the layout gives it -/

/-- The size of the device page at offset 8192, as 16 bits. -/
def reportedSize : Nat := (cfg.pageInfo 8192).size % 65536

/-- The pages of that size in a partition of at least 8192 bytes. -/
def capacity : Nat := (cfg.area.faSize - 8192) / reportedSize cfg % 65536

/-- A page begins at byte 8192 of the partition, and the pages from there on
    have the size reported. -/
structure PagesMatch : Prop where
  start : (cfg.pageInfo (cfg.area.faOff + 8192)).startOffset
    = cfg.area.faOff + 8192
  size : ∀ x, cfg.area.faOff + 8192 ≤ x →
    x < cfg.area.faOff + 8192 + capacity cfg * reportedSize cfg →
    (cfg.pageInfo x).size = reportedSize cfg

structure GeometryFits : Prop where
  size_ne : reportedSize cfg ≠ 0
  /-- The difference wraps in a partition of less than 8192 bytes. -/
  short : cfg.area.faSize < 8192 →
    (cfg.area.faSize + 4294967296 - 8192) / reportedSize cfg % 65536 = 0
  pages : 8192 ≤ cfg.area.faSize → 0 < capacity cfg → PagesMatch cfg

variable {cfg}

/-- The count of a partition of at least 8192 bytes. -/
theorem numberOfPages_long (hne : reportedSize cfg ≠ 0)
    (hsize : cfg.area.faSize < 4294967296) (hlong : 8192 ≤ cfg.area.faSize) :
    smtcModemHalStoreAndForwardGetNumberOfPages cfg = some (capacity cfg) := by
  rw [smtcModemHalStoreAndForwardGetNumberOfPages]
  refine (if_neg hne).trans ?_
  rw [addrStoreAndForwardContextOffset, u32Sub_eq hlong hsize]
  rfl

/-- The count of a shorter one. -/
theorem numberOfPages_short (hne : reportedSize cfg ≠ 0)
    (hshort : cfg.area.faSize < 8192) :
    smtcModemHalStoreAndForwardGetNumberOfPages cfg
      = some ((cfg.area.faSize + 4294967296 - 8192) / reportedSize cfg
          % 65536) := by
  have hwrap : u32Sub cfg.area.faSize 8192
      = cfg.area.faSize + 4294967296 - 8192 := by
    rw [u32Sub]
    omega
  rw [smtcModemHalStoreAndForwardGetNumberOfPages]
  refine (if_neg hne).trans ?_
  rw [addrStoreAndForwardContextOffset, hwrap]
  rfl

/-- What was counted lies in the partition. -/
theorem capacity_fits (hlong : 8192 ≤ cfg.area.faSize) :
    8192 + capacity cfg * reportedSize cfg ≤ cfg.area.faSize := by
  have hle : capacity cfg ≤ (cfg.area.faSize - 8192) / reportedSize cfg :=
    Nat.mod_le _ _
  have hmul := Nat.mul_le_mul_right (reportedSize cfg) hle
  have hdiv := Nat.div_mul_le_self (cfg.area.faSize - 8192) (reportedSize cfg)
  omega

/-- One page index more moves by one page. -/
theorem index_lt_capacity {index : Nat} (h : index < capacity cfg) :
    index * reportedSize cfg + reportedSize cfg
      ≤ capacity cfg * reportedSize cfg := by
  have hmul := Nat.mul_le_mul_right (reportedSize cfg) (Nat.succ_le_of_lt h)
  rwa [Nat.succ_mul] at hmul

/-- The range that the page `index` erases. -/
theorem erase_cells (hsize : cfg.area.faSize < 4294967296)
    (hlong : 8192 ≤ cfg.area.faSize) {index : Nat} (h : index < capacity cfg)
    (st : Storage) :
    (smtcModemHalContextFlashPagesErase cfg noFailure .storeAndForward
        (index * smtcModemHalFlashGetPageSize cfg) 1 st).flash.cells
      = splice st.flash.cells
          (cfg.area.faOff + (8192 + index * reportedSize cfg))
          (reportedSize cfg) (fun _ => 0xFF) := by
  have hfits := capacity_fits hlong
  have hindex := index_lt_capacity h
  have haddr : privHalContextAddress .storeAndForward
      (index * reportedSize cfg) = 8192 + index * reportedSize cfg :=
    u32Add_eq (by rw [addrStoreAndForwardContextOffset]; omega)
  show (flashAreaErase cfg.area noFailure st.flash (privHalContextAddress
    .storeAndForward (index * reportedSize cfg)) (reportedSize cfg * 1)).cells = _
  rw [flashAreaErase_ok, haddr, Nat.mul_one]

/-! ## One page after the other -/

/-- Where a page ends in the partition, the next begins. -/
theorem next_page_start (hl : DeviceLayout cfg) {x y : Nat}
    (hx : cfg.area.faOff ≤ x) (hxy : x < y)
    (hy : y < cfg.area.faOff + cfg.area.faSize)
    (hend : (cfg.pageInfo x).startOffset + (cfg.pageInfo x).size = y) :
    (cfg.pageInfo y).startOffset = y := by
  have hle := hl.start_le y (by omega) hy
  have hlt := hl.lt_end y (by omega) hy
  refine Decidable.byContradiction ?_
  intro hne
  -- otherwise the byte before `y` is in the page of `y`, and ends it
  have hprev : cfg.pageInfo (y - 1) = cfg.pageInfo y :=
    hl.same y (y - 1) (by omega) hy (by omega) (by omega)
  have hstart := hl.start_le x hx (by omega)
  have hsame : cfg.pageInfo (y - 1) = cfg.pageInfo x :=
    hl.same x (y - 1) hx (by omega) (by omega) (by omega)
  rw [hprev] at hsame
  rw [hsame] at hlt
  omega

/-- Each index has a page of its own. -/
theorem counted_page (hl : DeviceLayout cfg) (hne : reportedSize cfg ≠ 0)
    (hlong : 8192 ≤ cfg.area.faSize) (hm : PagesMatch cfg) (index : Nat)
    (h : index < capacity cfg) :
    cfg.pageInfo (cfg.area.faOff + (8192 + index * reportedSize cfg))
      = ⟨cfg.area.faOff + (8192 + index * reportedSize cfg),
          reportedSize cfg⟩ := by
  have hfits := capacity_fits hlong
  have hindex := index_lt_capacity h
  have hsize := hm.size (cfg.area.faOff + (8192 + index * reportedSize cfg))
    (by omega) (by omega)
  have hstart : (cfg.pageInfo
      (cfg.area.faOff + (8192 + index * reportedSize cfg))).startOffset
      = cfg.area.faOff + (8192 + index * reportedSize cfg) := by
    induction index with
    | zero =>
        rw [Nat.zero_mul, Nat.add_zero]
        exact hm.start
    | succ index ih =>
        have hprev := index_lt_capacity (Nat.lt_of_succ_lt h)
        have hprevSize := hm.size
          (cfg.area.faOff + (8192 + index * reportedSize cfg))
          (by omega) (by omega)
        have hprevStart := ih (Nat.lt_of_succ_lt h) hprev hprevSize
        rw [Nat.succ_mul] at hindex ⊢
        refine next_page_start hl
          (x := cfg.area.faOff + (8192 + index * reportedSize cfg))
          (by omega) (by omega) (by omega) ?_
        rw [hprevStart, hprevSize]
        omega
  exact FlashPagesInfo.mk.injEq _ _ _ _ ▸ ⟨hstart, hsize⟩

/-- A counted page that is real is erased. -/
theorem erases_of_page (hsize : cfg.area.faSize < 4294967296)
    (hlong : 8192 ≤ cfg.area.faSize) {index : Nat} (h : index < capacity cfg)
    (hpage : cfg.pageInfo (cfg.area.faOff + (8192 + index * reportedSize cfg))
      = ⟨cfg.area.faOff + (8192 + index * reportedSize cfg),
          reportedSize cfg⟩) : ErasesOnePage cfg index := by
  have hfits := capacity_fits hlong
  have hindex := index_lt_capacity h
  refine ⟨⟨cfg.area.faOff + (8192 + index * reportedSize cfg),
    reportedSize cfg⟩, ⟨hpage, ?_, ?_⟩, fun st => erase_cells hsize hlong h st⟩
  · show cfg.area.faOff + 8192
      ≤ cfg.area.faOff + (8192 + index * reportedSize cfg)
    omega
  · show cfg.area.faOff + (8192 + index * reportedSize cfg) + reportedSize cfg
      ≤ _
    omega

/-- The only page that an index can erase is the one at its place. -/
theorem page_of_erases (hsize : cfg.area.faSize < 4294967296)
    (hlong : 8192 ≤ cfg.area.faSize) (hne : reportedSize cfg ≠ 0) {index : Nat}
    (h : index < capacity cfg) (he : ErasesOnePage cfg index) :
    cfg.pageInfo (cfg.area.faOff + (8192 + index * reportedSize cfg))
      = ⟨cfg.area.faOff + (8192 + index * reportedSize cfg),
          reportedSize cfg⟩ := by
  obtain ⟨page, hpage, hcells⟩ := he
  have hst := hcells (filledStorage 0)
  rw [erase_cells hsize hlong h] at hst
  obtain ⟨hstart, hlen⟩ := splice_fill_inj (by decide)
    (Nat.pos_of_ne_zero hne) hst
  have hreal := hpage.real
  rw [← hstart] at hreal
  rw [hreal]
  exact FlashPagesInfo.mk.injEq _ _ _ _ ▸ ⟨hstart.symm, hlen.symm⟩

/-- If each index erases a page, the bytes counted are in pages of the size
    reported. -/
theorem pageSize_of_erases (hl : DeviceLayout cfg)
    (hsize : cfg.area.faSize < 4294967296) (hlong : 8192 ≤ cfg.area.faSize)
    (hne : reportedSize cfg ≠ 0)
    (hpages : ∀ index, index < capacity cfg → ErasesOnePage cfg index) {x : Nat}
    (hx : cfg.area.faOff + 8192 ≤ x)
    (hlt : x < cfg.area.faOff + 8192 + capacity cfg * reportedSize cfg) :
    (cfg.pageInfo x).size = reportedSize cfg := by
  -- the index of the byte `x`
  have hpos := Nat.pos_of_ne_zero hne
  have hdiv : (x - (cfg.area.faOff + 8192)) / reportedSize cfg < capacity cfg :=
    (Nat.div_lt_iff_lt_mul hpos).mpr (by omega)
  have hpage := page_of_erases hsize hlong hne hdiv (hpages _ hdiv)
  have hmod := Nat.div_add_mod (x - (cfg.area.faOff + 8192)) (reportedSize cfg)
  have hlast := Nat.mod_lt (x - (cfg.area.faOff + 8192)) hpos
  have hfits := capacity_fits hlong
  rw [Nat.mul_comm] at hmod
  have hsame := hl.same (cfg.area.faOff + (8192
    + (x - (cfg.area.faOff + 8192)) / reportedSize cfg * reportedSize cfg))
    x (by omega) (by omega) (by rw [hpage]; dsimp only; omega)
    (by rw [hpage]; dsimp only; omega)
  rw [hsame, hpage]

/-- **WHEN THE GEOMETRY IS CONSISTENT**: exactly when 16 bits of the page size
    at device offset 8192 are not zero, a partition of less than 8192 bytes
    happens to count none, and otherwise a page begins at byte 8192 of the
    partition and every page counted from there has the size reported. -/
theorem geometryConsistent_iff (hl : DeviceLayout cfg) :
    GeometryConsistent cfg ↔ GeometryFits cfg := by
  have hsize : cfg.area.faSize < 4294967296 := by
    have := hl.end_lt
    omega
  constructor
  · rintro ⟨hdivides, _, hshort, herases⟩
    have hne : reportedSize cfg ≠ 0 := by
      intro hzero
      obtain ⟨n, hn⟩ := hdivides
      rw [smtcModemHalStoreAndForwardGetNumberOfPages] at hn
      exact absurd (hn.symm.trans (if_pos hzero)) nofun
    refine ⟨hne, ?_, ?_⟩
    · intro hlt
      exact hshort _ (numberOfPages_short hne hlt) hlt
    · intro hlong _
      have hpages := herases _ (numberOfPages_long hne hsize hlong)
      refine ⟨?_, fun x hx hlt => pageSize_of_erases hl hsize hlong hne hpages hx hlt⟩
      have hpage := page_of_erases hsize hlong hne ‹_› (hpages 0 ‹_›)
      rw [Nat.zero_mul, Nat.add_zero] at hpage
      rw [hpage]
  · rintro ⟨hne, hshort, hpages⟩
    rcases Nat.lt_or_ge cfg.area.faSize 8192 with hlt | hlong
    · have hcount := numberOfPages_short hne hlt
      rw [hshort hlt] at hcount
      refine ⟨⟨0, hcount⟩, ?_, ?_, ?_⟩
      · intro n _ hge
        exact absurd hge (Nat.not_le.mpr hlt)
      · intro n hn _
        exact Option.some.inj (hn.symm.trans hcount)
      · intro n hn index hindex
        cases hn.symm.trans hcount
        exact absurd hindex (Nat.not_lt_zero index)
    · have hcount := numberOfPages_long hne hsize hlong
      refine ⟨⟨_, hcount⟩, ?_, ?_, ?_⟩
      · intro n hn _
        cases hn.symm.trans hcount
        exact capacity_fits hlong
      · intro n _ hlt
        exact absurd hlong (Nat.not_le.mpr hlt)
      · intro n hn index hindex
        cases hn.symm.trans hcount
        have hm := hpages hlong (by omega)
        exact erases_of_page hsize hlong hindex
          (counted_page hl hne hlong hm index hindex)

/-- A partition of a device with pages of one size. -/
def sectorPartition (faOff faSize sector : Nat) : StorageConfig where
  area := ⟨faOff, faSize⟩
  cell := nor
  pageInfo := fun x => ⟨x / sector * sector % 4294967296, sector⟩
  pageBufferSize := sector
  minFlashWriteSizeBytes := 8

/-- Eight pages of 4 KiB at the end of a 1 MiB device. -/
theorem geometryConsistent_eightSectors :
    GeometryConsistent (sectorPartition 1015808 32768 4096) := by
  have hl : DeviceLayout (sectorPartition 1015808 32768 4096) :=
    .uniform 4096 (by decide) (by decide) (by decide) fun _ => rfl
  refine (geometryConsistent_iff hl).mpr
    ⟨by decide, fun h => absurd h (by decide), ?_⟩
  intro _ _
  exact ⟨by decide, fun _ _ _ => rfl⟩

/-- **A LARGE PAGE HAS SIZE ZERO**: in a partition of two of the pages of
    128 KiB of a uniform device, the number of pages is a division by zero. -/
theorem large_page_divides_by_zero :
    DeviceLayout (sectorPartition 786432 262144 131072)
      ∧ smtcModemHalStoreAndForwardGetNumberOfPages
          (sectorPartition 786432 262144 131072) = none
      ∧ ¬ GeometryConsistent (sectorPartition 786432 262144 131072) := by
  have hnone : smtcModemHalStoreAndForwardGetNumberOfPages
      (sectorPartition 786432 262144 131072) = none := rfl
  refine ⟨.uniform 131072 (by decide) (by decide) (by decide)
    fun _ => rfl, hnone, ?_⟩
  intro h
  obtain ⟨n, hn⟩ := h.divides
  exact absurd (hn.symm.trans hnone) nofun

end StoreGeometry
