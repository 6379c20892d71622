import UspZephyr.FlashProofs
import UspZephyr.WordArithmeticProofs

/-! # Context storage refines a byte memory

    The provided storage implementation keeps six contexts in one flash
    partition.  The first five live below byte 8192 and are stored by a
    read-modify-erase-write of whole pages (`flashReadModifyWrite`), so every
    store rewrites its neighbours; store-and-forward lies above and is written
    in place.

    The loop of `flash_read_modify_write` mixes device, partition and page
    addresses.  `flashReadModifyWrite_cell` says in partition addresses what the
    whole loop leaves in every cell, for every pattern of failing calls; the two
    readings of it are the refinement below (no call fails) and the damage
    analysis of the next module. -/

namespace ContextStorage

open ByteMemory WordArithmetic Flash

/-- `modem_context_type_t`. -/
inductive ModemContextType where
  | lorawanStack
  | keyModem
  | modem
  | secureElement
  | fuota
  | storeAndForward
  deriving DecidableEq, Repr

def addrLorawanContextOffset : Nat := 0
def addrModemKeyContextOffset : Nat := 256
def addrModemContextOffset : Nat := 512
def addrSecureElementContextOffset : Nat := 768
def addrFuotaContextOffset : Nat := 4096
def addrStoreAndForwardContextOffset : Nat := 8192

/-- What the build and the device tree fix: the context partition, its device
    and the two block sizes. -/
structure StorageConfig where
  area : FlashArea
  cell : CellProgram
  /-- `flash_get_page_info_by_offs`, at device addresses. -/
  pageInfo : Nat → FlashPagesInfo
  /-- `PAGE_BUFFER_SIZE`. -/
  pageBufferSize : Nat
  /-- `MIN_FLASH_WRITE_SIZE_BYTES`. -/
  minFlashWriteSizeBytes : Nat

/-- The device and the static `page_buffer`. -/
structure Storage where
  flash : FlashState
  pageBuffer : Nat → UInt8

/-- The cells of the partition, at partition offsets. -/
def Storage.partition (st : Storage) (cfg : StorageConfig) (a : Nat) : UInt8 :=
  st.flash.cells (cfg.area.faOff + a)

/-- `priv_hal_context_address`. -/
def privHalContextAddress (ctxType : ModemContextType) (offset : Nat) : Nat :=
  match ctxType with
  | .lorawanStack => u32Add addrLorawanContextOffset offset
  | .keyModem => u32Add addrModemKeyContextOffset offset
  | .modem => u32Add addrModemContextOffset offset
  | .secureElement => u32Add addrSecureElementContextOffset offset
  | .fuota => u32Add addrFuotaContextOffset offset
  | .storeAndForward => u32Add addrStoreAndForwardContextOffset offset

variable (cfg : StorageConfig) (fails : Nat → Bool)

/-- `smtc_modem_hal_context_restore`. -/
def smtcModemHalContextRestore (ctxType : ModemContextType) (offset : Nat)
    (buffer : Nat → UInt8) (size : Nat) (st : Storage) :
    (Nat → UInt8) × Storage :=
  let realOffset := privHalContextAddress ctxType offset
  let r := flashAreaRead cfg.area fails st.flash realOffset buffer 0 size
  (r.1, { st with flash := r.2 })

/-! ## `flash_read_modify_write` -/

/-- Start of the page that holds the next byte, as an offset in the partition. -/
def pageOffsetInFa (offset offsetInData : Nat) : Nat :=
  u32Sub (cfg.pageInfo (cfg.area.faOff + offset + offsetInData)).startOffset
    cfg.area.faOff

/-- Where in its page the next byte goes. -/
def offsetInPage (offset offsetInData : Nat) : Nat :=
  u32Sub (u32Add offset offsetInData) (pageOffsetInFa cfg offset offsetInData)

/-- How many bytes one turn of the loop stores. -/
def turnLength (offset offsetInData remaining : Nat) : Nat :=
  min remaining
    (u32Sub cfg.pageBufferSize (offsetInPage cfg offset offsetInData))

/-- One turn of the `do … while` loop: the storage after it and the bytes that
    remain. -/
def rmwTurn (offset : Nat) (buffer : Nat → UInt8) (size remaining : Nat)
    (st : Storage) : Storage × Nat :=
  let offsetInData := u32Sub size remaining
  -- memset( page_buffer, 0xFF, PAGE_BUFFER_SIZE )
  let blank := splice st.pageBuffer 0 cfg.pageBufferSize (fun _ => 0xFF)
  let page := pageOffsetInFa cfg offset offsetInData
  let r := flashAreaRead cfg.area fails st.flash page blank 0 cfg.pageBufferSize
  let length := turnLength cfg offset offsetInData remaining
  let filled := splice r.1 (offsetInPage cfg offset offsetInData) length
    (fun i => buffer (offsetInData + i))
  let erased := flashAreaErase cfg.area fails r.2 page cfg.pageBufferSize
  let written := flashAreaWrite cfg.area cfg.cell fails erased page filled
    cfg.pageBufferSize
  ({ flash := written, pageBuffer := filled }, u32Sub remaining length)

/-- The loop, `none` when `fuel` turns do not end it. -/
def rmwLoop (offset : Nat) (buffer : Nat → UInt8) (size : Nat) :
    Nat → Nat → Storage → Option Storage
  | 0, _, _ => none
  | fuel + 1, remaining, st =>
      let turn := rmwTurn cfg fails offset buffer size remaining st
      if 0 < turn.2 then rmwLoop offset buffer size fuel turn.2 turn.1
      else some turn.1

/-- `flash_read_modify_write`.  A turn that stores nothing while bytes remain
    repeats itself for ever, and every other turn stores at least one byte, so
    `size + 1` turns decide whether the loop ends. -/
def flashReadModifyWrite (offset : Nat) (buffer : Nat → UInt8) (size : Nat)
    (st : Storage) : Option Storage :=
  rmwLoop cfg fails offset buffer size (size + 1) size st

/-! ## `smtc_modem_hal_context_store` -/

/-- Read the bytes of the write block before `realOffset` into `page_buffer`. -/
def readPaddingBefore (realOffset padding : Nat) (st : Storage) :
    (Nat → UInt8) × FlashState :=
  if padding ≠ 0 then
    flashAreaRead cfg.area fails st.flash (u32Sub realOffset padding)
      st.pageBuffer 0 padding
  else (st.pageBuffer, st.flash)

/-- The branch of `smtc_modem_hal_context_store` at and above byte 8192: align,
    pad with what the flash holds, write in place. -/
def storeAndForwardWrite (realOffset : Nat) (buffer : Nat → UInt8) (size : Nat)
    (st : Storage) : Storage :=
  let padding := realOffset % cfg.minFlashWriteSizeBytes
  let before := readPaddingBefore cfg fails realOffset padding st
  -- unaligned and smaller than the minimal write
  let small := u32Add size padding < cfg.minFlashWriteSizeBytes
  let after :=
    if small then
      flashAreaRead cfg.area fails before.2 (u32Add realOffset size) before.1
        (padding + size) (cfg.minFlashWriteSizeBytes - (padding + size))
    else before
  let realWriteSize :=
    if small then cfg.minFlashWriteSizeBytes else u32Add size padding
  let filled := splice after.1 padding size buffer
  { flash := flashAreaWrite cfg.area cfg.cell fails after.2
      (u32Sub realOffset padding) filled realWriteSize
    pageBuffer := filled }

/-- `smtc_modem_hal_context_store`; `none` when it does not return. -/
def smtcModemHalContextStore (ctxType : ModemContextType) (offset : Nat)
    (buffer : Nat → UInt8) (size : Nat) (st : Storage) : Option Storage :=
  let realOffset := privHalContextAddress ctxType offset
  if realOffset < addrStoreAndForwardContextOffset then
    flashReadModifyWrite cfg fails realOffset buffer size st
  else some (storeAndForwardWrite cfg fails realOffset buffer size st)

/-- Below byte 8192 a store is a read-modify-write. -/
theorem contextStore_below {ctxType : ModemContextType} {offset : Nat}
    (h : privHalContextAddress ctxType offset < addrStoreAndForwardContextOffset)
    (buffer : Nat → UInt8) (size : Nat) (st : Storage) :
    smtcModemHalContextStore cfg fails ctxType offset buffer size st
      = flashReadModifyWrite cfg fails (privHalContextAddress ctxType offset)
          buffer size st :=
  if_pos h

/-! ## Pages of the partition -/

/-- A page-aligned partition whose device has uniform pages of
    `PAGE_BUFFER_SIZE`. -/
structure UniformLayout (cfg : StorageConfig) : Prop where
  page_pos : 0 < cfg.pageBufferSize
  page_lt : cfg.pageBufferSize < 4294967296
  off_aligned : cfg.pageBufferSize ∣ cfg.area.faOff
  size_aligned : cfg.pageBufferSize ∣ cfg.area.faSize
  info : ∀ x, cfg.pageInfo x
    = ⟨x / cfg.pageBufferSize * cfg.pageBufferSize, cfg.pageBufferSize⟩

section Geometry

variable {cfg} (hl : UniformLayout cfg) {offset offsetInData : Nat}
  (ho : offset + offsetInData < 4294967296)

include hl ho

/-- In partition addresses, the page of a byte starts at the multiple of the
    page size below it. -/
theorem pageOffsetInFa_eq :
    pageOffsetInFa cfg offset offsetInData
      = (offset + offsetInData) / cfg.pageBufferSize * cfg.pageBufferSize := by
  obtain ⟨k, hk⟩ := hl.off_aligned
  have hdiv : (cfg.area.faOff + offset + offsetInData) / cfg.pageBufferSize
      = k + (offset + offsetInData) / cfg.pageBufferSize := by
    rw [hk, Nat.add_assoc, Nat.mul_add_div hl.page_pos]
  have hle : (offset + offsetInData) / cfg.pageBufferSize * cfg.pageBufferSize
      ≤ offset + offsetInData := Nat.div_mul_le_self _ _
  rw [pageOffsetInFa, hl.info, hdiv, Nat.add_mul, Nat.mul_comm k, ← hk]
  exact u32Sub_add_left _ (by omega)

theorem offsetInPage_eq :
    offsetInPage cfg offset offsetInData
      = (offset + offsetInData) % cfg.pageBufferSize := by
  have hsplit := Nat.div_add_mod (offset + offsetInData) cfg.pageBufferSize
  rw [Nat.mul_comm] at hsplit
  rw [offsetInPage, pageOffsetInFa_eq hl ho, u32Add_eq ho,
    u32Sub_eq (by omega) ho]
  omega

theorem turnLength_eq (remaining : Nat) :
    turnLength cfg offset offsetInData remaining
      = min remaining (cfg.pageBufferSize
          - (offset + offsetInData) % cfg.pageBufferSize) := by
  have hlt := Nat.mod_lt (offset + offsetInData) hl.page_pos
  rw [turnLength, offsetInPage_eq hl ho, u32Sub_eq (by omega) hl.page_lt]

end Geometry

/-! ## What the loop leaves in every cell -/

/-- The byte a store of `size` bytes at `offset` puts in the cell `a`, if any. -/
def patchAt (offset : Nat) (buffer : Nat → UInt8) (size a : Nat) :
    Option UInt8 :=
  if offset ≤ a ∧ a < offset + size then some (buffer (a - offset)) else none

theorem patchAt_eq_none {offset : Nat} {buffer : Nat → UInt8} {size a : Nat}
    (h : a < offset ∨ offset + size ≤ a) : patchAt offset buffer size a = none := by
  refine if_neg ?_
  rintro ⟨h1, h2⟩
  omega

/-- Below `o + k` the first `k` bytes of a store are the store. -/
theorem patchAt_prefix {o k a : Nat} {buffer : Nat → UInt8} (h : a < o + k)
    (n : Nat) : patchAt o buffer k a = patchAt o buffer (k + n) a := by
  rw [patchAt, patchAt]
  by_cases ho : o ≤ a
  · rw [if_pos ⟨ho, h⟩, if_pos ⟨ho, by omega⟩]
  · rw [if_neg (fun h' => ho h'.1), if_neg (fun h' => ho h'.1)]

/-- From `o + k` on the bytes of a store after its first `k` are the store. -/
theorem patchAt_shift {o k a : Nat} (buffer : Nat → UInt8) (h : o + k ≤ a)
    (n : Nat) :
    patchAt (o + k) (fun i => buffer (k + i)) n a
      = patchAt o buffer (k + n) a := by
  rw [patchAt, patchAt]
  by_cases hn : a < o + (k + n)
  · rw [if_pos ⟨h, by omega⟩, if_pos ⟨by omega, hn⟩]
    show some (buffer (k + (a - (o + k)))) = some (buffer (a - o))
    rw [show k + (a - (o + k)) = a - o by omega]
  · rw [if_neg (by omega), if_neg (by omega)]

/-- The cell `a` after its page went through a turn whose first flash call is
    call number `c`. -/
def cellAfterTurn (c : Nat) (patch : Option UInt8) (v : UInt8) : UInt8 :=
  rewritten cfg.cell (fails c) (fails (c + 1)) (fails (c + 2)) patch v

/-- The page of the cell `a` is one of those that `size` bytes at `offset` lie
    on; an empty range lies on the page of its offset. -/
def PageTouched (offset size a : Nat) : Prop :=
  offset / cfg.pageBufferSize ≤ a / cfg.pageBufferSize
    ∧ a / cfg.pageBufferSize ≤ (offset + (size - 1)) / cfg.pageBufferSize

instance (offset size a : Nat) : Decidable (PageTouched cfg offset size a) :=
  inferInstanceAs (Decidable (_ ∧ _))

section Pages

variable {cfg} (hl : UniformLayout cfg) {o n a : Nat}

include hl

/-- The page after the one of `o` is the next in number. -/
theorem nextPage_div (o : Nat) :
    (o + (cfg.pageBufferSize - o % cfg.pageBufferSize)) / cfg.pageBufferSize
      = o / cfg.pageBufferSize + 1 := by
  have hmod := Nat.mod_lt o hl.page_pos
  have hsplit := Nat.div_add_mod o cfg.pageBufferSize
  rw [Nat.mul_comm] at hsplit
  have hnext : o + (cfg.pageBufferSize - o % cfg.pageBufferSize)
      = (o / cfg.pageBufferSize + 1) * cfg.pageBufferSize := by
    rw [Nat.add_mul, Nat.one_mul]
    omega
  rw [hnext, Nat.mul_div_cancel _ hl.page_pos]

/-- A cell of the page of `o` lies before the next page. -/
theorem before_nextPage (h : a / cfg.pageBufferSize = o / cfg.pageBufferSize) :
    a < o + (cfg.pageBufferSize - o % cfg.pageBufferSize) := by
  refine Nat.lt_of_not_le fun hle => ?_
  have := Nat.div_le_div_right (c := cfg.pageBufferSize) hle
  rw [nextPage_div hl] at this
  omega

/-- A cell of a later page lies at or after the next page. -/
theorem after_nextPage (h : o / cfg.pageBufferSize < a / cfg.pageBufferSize) :
    o + (cfg.pageBufferSize - o % cfg.pageBufferSize) ≤ a := by
  have hmod := Nat.mod_lt o hl.page_pos
  have hsplit := Nat.div_add_mod o cfg.pageBufferSize
  rw [Nat.mul_comm] at hsplit
  have hge : (o / cfg.pageBufferSize + 1) * cfg.pageBufferSize ≤ a :=
    (Nat.le_div_iff_mul_le hl.page_pos).mp h
  rw [Nat.add_mul, Nat.one_mul] at hge
  omega

/-- A cell of another page lies before the page of `o` or after it. -/
theorem outside_page (h : a / cfg.pageBufferSize ≠ o / cfg.pageBufferSize) :
    a < o / cfg.pageBufferSize * cfg.pageBufferSize
      ∨ o / cfg.pageBufferSize * cfg.pageBufferSize + cfg.pageBufferSize
        ≤ a := by
  rcases Nat.lt_or_gt_of_ne h with hlt | hgt
  · exact Or.inl ((Nat.div_lt_iff_lt_mul hl.page_pos).mp hlt)
  · have hge : (o / cfg.pageBufferSize + 1) * cfg.pageBufferSize ≤ a :=
      (Nat.le_div_iff_mul_le hl.page_pos).mp hgt
    rw [Nat.add_mul, Nat.one_mul] at hge
    exact Or.inr hge

/-- A range that ends within the page of `o` touches that page. -/
theorem pageTouched_of_fits
    (h : n ≤ cfg.pageBufferSize - o % cfg.pageBufferSize) :
    PageTouched cfg o n a
      ↔ a / cfg.pageBufferSize = o / cfg.pageBufferSize := by
  have hmod := Nat.mod_lt o hl.page_pos
  have hsplit := Nat.div_add_mod o cfg.pageBufferSize
  rw [Nat.mul_comm] at hsplit
  have hend : (o + (n - 1)) / cfg.pageBufferSize = o / cfg.pageBufferSize :=
    Nat.div_eq_of_lt_le (by omega) (by rw [Nat.add_mul, Nat.one_mul]; omega)
  rw [PageTouched, hend]
  omega

/-- A range that goes past the page of `o` touches that page, and those the rest
    of it touches. -/
theorem pageTouched_of_crosses
    (h : cfg.pageBufferSize - o % cfg.pageBufferSize < n) :
    PageTouched cfg o n a
      ↔ a / cfg.pageBufferSize = o / cfg.pageBufferSize
        ∨ PageTouched cfg (o + (cfg.pageBufferSize - o % cfg.pageBufferSize))
            (n - (cfg.pageBufferSize - o % cfg.pageBufferSize)) a := by
  have hend : o + (cfg.pageBufferSize - o % cfg.pageBufferSize)
        + (n - (cfg.pageBufferSize - o % cfg.pageBufferSize) - 1)
      = o + (n - 1) := by omega
  have hle : o / cfg.pageBufferSize ≤ (o + (n - 1)) / cfg.pageBufferSize :=
    Nat.div_le_div_right (by omega)
  rw [PageTouched, PageTouched, hend, nextPage_div hl]
  omega

end Pages

/-- What a store of `n` bytes at `o` is to leave in the cell `a`, its first
    flash call being call number `c`: the turn for the cell's page comes after
    those for the pages before it. -/
def cellAfterStore (c o : Nat) (buffer : Nat → UInt8) (n a : Nat) (v : UInt8) :
    UInt8 :=
  if PageTouched cfg o n a then
    cellAfterTurn cfg fails
      (c + 3 * (a / cfg.pageBufferSize - o / cfg.pageBufferSize))
      (patchAt o buffer n a) v
  else v

section Stores

variable {cfg} (hl : UniformLayout cfg) {o n a : Nat} (c : Nat)
  (buffer : Nat → UInt8)

include hl

/-- A store within the page of `o` is one turn. -/
theorem cellAfterStore_fits
    (h : n ≤ cfg.pageBufferSize - o % cfg.pageBufferSize) (v : UInt8) :
    cellAfterStore cfg fails c o buffer n a v
      = if a / cfg.pageBufferSize = o / cfg.pageBufferSize then
          cellAfterTurn cfg fails c (patchAt o buffer n a) v
        else v := by
  have htouch := pageTouched_of_fits hl (a := a) h
  rw [cellAfterStore]
  by_cases hpage : a / cfg.pageBufferSize = o / cfg.pageBufferSize
  · rw [if_pos hpage, if_pos (htouch.mpr hpage), hpage, Nat.sub_self]
    rfl
  · rw [if_neg hpage, if_neg (fun h => hpage (htouch.mp h))]

/-- A store that goes past the page of `o` is one turn for that page, and then
    the store of the rest. -/
theorem cellAfterStore_crosses
    (h : cfg.pageBufferSize - o % cfg.pageBufferSize < n) (v : UInt8) :
    cellAfterStore cfg fails c o buffer n a v
      = cellAfterStore cfg fails (c + 3)
          (o + (cfg.pageBufferSize - o % cfg.pageBufferSize))
          (fun i =>
            buffer (cfg.pageBufferSize - o % cfg.pageBufferSize + i))
          (n - (cfg.pageBufferSize - o % cfg.pageBufferSize)) a
          (if a / cfg.pageBufferSize = o / cfg.pageBufferSize then
            cellAfterTurn cfg fails c
              (patchAt o buffer
                (cfg.pageBufferSize - o % cfg.pageBufferSize) a) v
          else v) := by
  have htouch := pageTouched_of_crosses hl (a := a) h
  have hnext := nextPage_div hl o
  have hbefore := before_nextPage hl (a := a) (o := o)
  have hafter := after_nextPage hl (a := a) (o := o)
  generalize cfg.pageBufferSize - o % cfg.pageBufferSize = k at *
  have hsplit : k + (n - k) = n := by omega
  rw [cellAfterStore, cellAfterStore, hnext]
  by_cases hpage : a / cfg.pageBufferSize = o / cfg.pageBufferSize
  · -- the page of `o`, not reached again
    have hnot : ¬ PageTouched cfg (o + k) (n - k) a := by
      intro hin
      have := hin.1
      omega
    rw [if_neg hnot, if_pos hpage, if_pos (htouch.mpr (Or.inl hpage)), hpage,
      Nat.sub_self, patchAt_prefix (hbefore hpage) (n - k), hsplit]
    rfl
  · rw [if_neg hpage]
    by_cases hin : PageTouched cfg (o + k) (n - k) a
    · -- a later page: its turn is counted from the next page on
      have hlo := hin.1
      have hcount : c + 3 + 3 * (a / cfg.pageBufferSize
            - (o / cfg.pageBufferSize + 1))
          = c + 3 * (a / cfg.pageBufferSize - o / cfg.pageBufferSize) := by
        omega
      rw [if_pos hin, if_pos (htouch.mpr (Or.inr hin)), hcount,
        patchAt_shift buffer (hafter (by omega)) (n - k), hsplit]
    · rw [if_neg hin, if_neg]
      intro h
      rcases htouch.mp h with h1 | h2
      · exact hpage h1
      · exact hin h2

end Stores

/-- What the page buffer holds when it is written back: the byte the store puts
    there, or what the read of the page at `base` left. -/
theorem filledBuffer_byte (st : Storage) (data : Nat → UInt8) {base m len i : Nat}
    (hi : i < cfg.pageBufferSize) :
    splice (flashAreaRead cfg.area fails st.flash base
        (splice st.pageBuffer 0 cfg.pageBufferSize fun _ => 0xFF)
        0 cfg.pageBufferSize).1 m len data i
      = (patchAt (base + m) data len (base + i)).getD
          (if fails st.flash.calls then 0xFF
            else st.flash.cells (cfg.area.faOff + base + i)) := by
  have hread := flashAreaRead_byte cfg.area fails st.flash base
    (splice st.pageBuffer 0 cfg.pageBufferSize fun _ => 0xFF) 0 hi
  rw [Nat.zero_add, splice_inside (Nat.zero_le i) (by omega)] at hread
  by_cases hin : m ≤ i ∧ i < m + len
  · rw [splice_inside hin.1 hin.2, patchAt, if_pos (by omega)]
    show data (i - m) = data (base + i - (base + m))
    rw [show base + i - (base + m) = i - m by omega]
  · rw [splice_outside (by omega), hread, patchAt_eq_none (by omega)]
    rfl

@[simp] theorem rmwTurn_calls (offset : Nat) (buffer : Nat → UInt8)
    (size remaining : Nat) (st : Storage) :
    (rmwTurn cfg fails offset buffer size remaining st).1.flash.calls
      = st.flash.calls + 3 := rfl

section Loop

variable {cfg} (hl : UniformLayout cfg) {offset : Nat} (buffer : Nat → UInt8)
  {size : Nat} (hsize : offset + size < 4294967296)

include hl hsize

/-- The bytes that remain after a turn. -/
theorem rmwTurn_remaining {remaining : Nat} (hr : remaining ≤ size)
    (st : Storage) :
    (rmwTurn cfg fails offset buffer size remaining st).2
      = remaining - min remaining (cfg.pageBufferSize
          - (offset + (size - remaining)) % cfg.pageBufferSize) := by
  have hsub : u32Sub size remaining = size - remaining :=
    u32Sub_eq hr (by omega)
  show u32Sub remaining
    (turnLength cfg offset (u32Sub size remaining) remaining) = _
  rw [hsub, turnLength_eq hl (by omega)]
  exact u32Sub_eq (Nat.min_le_left _ _) (by omega)

/-- **ONE TURN** rewrites the page of the next byte and no other cell. -/
theorem rmwTurn_cell {remaining : Nat} (hr : remaining ≤ size)
    (st : Storage) (a : Nat) :
    (rmwTurn cfg fails offset buffer size remaining st).1.partition cfg a
      = if a / cfg.pageBufferSize
          = (offset + (size - remaining)) / cfg.pageBufferSize then
        cellAfterTurn cfg fails st.flash.calls
          (patchAt (offset + (size - remaining))
            (fun i => buffer (size - remaining + i))
            (min remaining (cfg.pageBufferSize
              - (offset + (size - remaining)) % cfg.pageBufferSize)) a)
          (st.partition cfg a)
      else st.partition cfg a := by
  have hsub : u32Sub size remaining = size - remaining :=
    u32Sub_eq hr (by omega)
  have ho : offset + (size - remaining) < 4294967296 := by omega
  generalize hd : size - remaining = d at *
  rw [rmwTurn, Storage.partition, Storage.partition]
  simp only [hsub, pageOffsetInFa_eq hl ho, offsetInPage_eq hl ho,
    turnLength_eq hl ho]
  by_cases hpage : a / cfg.pageBufferSize = (offset + d) / cfg.pageBufferSize
  · -- the page of the next byte: follow the cell through the three calls
    rw [if_pos hpage]
    have hi : a % cfg.pageBufferSize < cfg.pageBufferSize :=
      Nat.mod_lt _ hl.page_pos
    have hai := Nat.div_add_mod a cfg.pageBufferSize
    have hod := Nat.div_add_mod (offset + d) cfg.pageBufferSize
    rw [hpage, Nat.mul_comm] at hai
    rw [Nat.mul_comm] at hod
    generalize (offset + d) / cfg.pageBufferSize * cfg.pageBufferSize = base at *
    generalize a % cfg.pageBufferSize = i at *
    subst hai
    rw [← Nat.add_assoc, flashAreaWrite_inside _ _ _ _ _ hi,
      flashAreaErase_inside _ _ _ hi, filledBuffer_byte cfg fails st _ hi,
      hod]
    rfl
  · -- another page: neither the erase nor the write reaches it
    rw [if_neg hpage]
    have hout := outside_page hl hpage
    rw [flashAreaWrite_outside _ _ _ _ _ (by omega),
      flashAreaErase_outside _ _ _ (by omega)]
    rfl

/-- **THE LOOP ENDS**, and leaves in every cell what a store of the remaining
    bytes is to leave there.  Induction on the fuel; `done` bytes are stored,
    `remaining` are not, and every earlier page is done with. -/
theorem rmwLoop_cell :
    ∀ (fuel remaining done : Nat) (st : Storage), remaining < fuel →
      done + remaining = size →
      ∃ st', rmwLoop cfg fails offset buffer size fuel remaining st = some st'
        ∧ ∀ a, st'.partition cfg a
          = cellAfterStore cfg fails st.flash.calls (offset + done)
              (fun i => buffer (done + i)) remaining a (st.partition cfg a) := by
  intro fuel
  induction fuel with
  | zero => intro remaining done st hf; omega
  | succ fuel ih =>
      intro remaining done st hf hdone
      have hd : size - remaining = done := by omega
      have hr : remaining ≤ size := by omega
      have hrem := rmwTurn_remaining fails hl buffer hsize hr st
      have hcell := rmwTurn_cell fails hl buffer hsize hr st
      have hcalls := rmwTurn_calls cfg fails offset buffer size remaining st
      rw [hd] at hrem hcell
      show ∃ st', (if 0 < (rmwTurn cfg fails offset buffer size remaining st).2
          then rmwLoop cfg fails offset buffer size fuel
            (rmwTurn cfg fails offset buffer size remaining st).2
            (rmwTurn cfg fails offset buffer size remaining st).1
          else some (rmwTurn cfg fails offset buffer size remaining st).1)
            = some st' ∧ _
      generalize rmwTurn cfg fails offset buffer size remaining st = turn at *
      obtain ⟨t, rem'⟩ := turn
      simp only at hrem hcell hcalls ⊢
      have hmod := Nat.mod_lt (offset + done) hl.page_pos
      by_cases hlast : remaining
          ≤ cfg.pageBufferSize - (offset + done) % cfg.pageBufferSize
      · -- the last page: the turn is the whole rest of the loop
        rw [Nat.min_eq_left hlast] at hrem hcell
        rw [if_neg (by omega)]
        refine ⟨t, rfl, ?_⟩
        intro a
        rw [hcell a, cellAfterStore_fits fails hl _ _ hlast]
      · -- the range goes on: the next turn starts at the next page
        have hlt := Nat.lt_of_not_le hlast
        rw [Nat.min_eq_right (Nat.le_of_lt hlt)] at hrem hcell
        rw [if_pos (by omega)]
        obtain ⟨st', hrun, hst'⟩ := ih rem' (done + (cfg.pageBufferSize
          - (offset + done) % cfg.pageBufferSize)) t (by omega) (by omega)
        refine ⟨st', hrun, ?_⟩
        intro a
        rw [hst' a, hcell a, hcalls, hrem,
          cellAfterStore_crosses fails hl _ _ hlt]
        simp only [Nat.add_assoc]

/-- `flash_read_modify_write` returns, and what it leaves in every cell. -/
theorem flashReadModifyWrite_cell (st : Storage) :
    ∃ st', flashReadModifyWrite cfg fails offset buffer size st = some st'
      ∧ ∀ a, st'.partition cfg a
        = if PageTouched cfg offset size a then
            cellAfterTurn cfg fails
              (st.flash.calls + 3 * (a / cfg.pageBufferSize
                - offset / cfg.pageBufferSize))
              (patchAt offset buffer size a) (st.partition cfg a)
          else st.partition cfg a := by
  obtain ⟨st', hrun, hst'⟩ := rmwLoop_cell fails hl buffer hsize (size + 1) size
    0 st (Nat.lt_succ_self _) (Nat.zero_add _)
  refine ⟨st', hrun, ?_⟩
  simp only [Nat.add_zero, Nat.zero_add] at hst'
  exact hst'

end Loop

/-! ## Stores that succeed, against the byte memory -/

/-- One call of `smtc_modem_hal_context_store`. -/
structure StoreCall where
  ctxType : ModemContextType
  offset : Nat
  buffer : Nat → UInt8
  size : Nat

/-- The offset in the partition a call stores at. -/
def StoreCall.realOffset (c : StoreCall) : Nat :=
  privHalContextAddress c.ctxType c.offset

/-- The store a call is meant to be. -/
def StoreCall.toStore (c : StoreCall) : Store UInt8 :=
  ⟨c.realOffset, c.size, c.buffer⟩

/-- The bytes of the partition set aside for a context; store-and-forward has
    whatever lies above the others. -/
def contextRegion : ModemContextType → Option (Nat × Nat)
  | .lorawanStack => some (addrLorawanContextOffset, addrModemKeyContextOffset)
  | .keyModem => some (addrModemKeyContextOffset, addrModemContextOffset)
  | .modem => some (addrModemContextOffset, addrSecureElementContextOffset)
  | .secureElement =>
      some (addrSecureElementContextOffset, addrFuotaContextOffset)
  | .fuota => some (addrFuotaContextOffset, addrStoreAndForwardContextOffset)
  | .storeAndForward => none

/-- The call is for one of the contexts below byte 8192 and its range lies
    inside the region of that context. -/
def StoreCall.InRegion (c : StoreCall) : Prop :=
  ∃ region, contextRegion c.ctxType = some region
    ∧ region.1 ≤ c.realOffset ∧ c.realOffset + c.size ≤ region.2

/-- Every region ends where store-and-forward begins, or before. -/
theorem StoreCall.InRegion.end_le {c : StoreCall} (h : c.InRegion) :
    c.realOffset + c.size ≤ addrStoreAndForwardContextOffset := by
  obtain ⟨region, hregion, -, hend⟩ := h
  refine Nat.le_trans hend ?_
  cases hc : c.ctxType <;> rw [hc] at hregion <;>
    simp only [contextRegion, Option.some.injEq, reduceCtorEq] at hregion <;>
    subst hregion <;> decide

/-- A sequence of store calls, oldest first. -/
def storeAll : List StoreCall → Storage → Option Storage
  | [], st => some st
  | c :: cs, st =>
      match smtcModemHalContextStore cfg fails c.ctxType c.offset c.buffer
          c.size st with
      | none => none
      | some st' => storeAll cs st'

variable {cfg}

/-- `flash_read_modify_write` is a plain store when no call fails. -/
theorem flashReadModifyWrite_ok (hl : UniformLayout cfg) {offset : Nat}
    (buffer : Nat → UInt8) {size : Nat} (hsize : offset + size < 4294967296)
    (st : Storage) :
    ∃ st', flashReadModifyWrite cfg noFailure offset buffer size st = some st'
      ∧ st'.partition cfg = splice (st.partition cfg) offset size buffer := by
  obtain ⟨st', hrun, hcell⟩ :=
    flashReadModifyWrite_cell noFailure hl buffer hsize st
  refine ⟨st', hrun, ?_⟩
  funext a
  rw [hcell a]
  by_cases hin : offset ≤ a ∧ a < offset + size
  · have htouch : PageTouched cfg offset size a :=
      ⟨Nat.div_le_div_right hin.1, Nat.div_le_div_right (by omega)⟩
    rw [if_pos htouch, splice_inside hin.1 hin.2]
    rw [patchAt, if_pos hin]
    exact rewritten_ok cfg.cell _ _
  · -- a neighbour: rewritten with what it held, or not touched at all
    rw [splice_outside (by omega), patchAt_eq_none (by omega)]
    by_cases htouch : PageTouched cfg offset size a
    · rw [if_pos htouch]
      exact rewritten_ok cfg.cell none _
    · rw [if_neg htouch]

/-! ## The branch at and above byte 8192 -/

/-- How many bytes the branch writes. -/
def realWriteSize (cfg : StorageConfig) (realOffset size : Nat) : Nat :=
  if u32Add size (realOffset % cfg.minFlashWriteSizeBytes)
      < cfg.minFlashWriteSizeBytes then cfg.minFlashWriteSizeBytes
  else u32Add size (realOffset % cfg.minFlashWriteSizeBytes)

/-- How many reads of padding come before the write. -/
def paddingReads (cfg : StorageConfig) (realOffset size : Nat) : Nat :=
  (if realOffset % cfg.minFlashWriteSizeBytes ≠ 0 then 1 else 0)
    + (if u32Add size (realOffset % cfg.minFlashWriteSizeBytes)
        < cfg.minFlashWriteSizeBytes then 1 else 0)

/-- Both reads of padding: `page_buffer` and the device after them. -/
def readPadding (cfg : StorageConfig) (fails : Nat → Bool)
    (realOffset size : Nat) (st : Storage) : (Nat → UInt8) × FlashState :=
  let padding := realOffset % cfg.minFlashWriteSizeBytes
  let before := readPaddingBefore cfg fails realOffset padding st
  if u32Add size padding < cfg.minFlashWriteSizeBytes then
    flashAreaRead cfg.area fails before.2 (u32Add realOffset size) before.1
      (padding + size) (cfg.minFlashWriteSizeBytes - (padding + size))
  else before

section PaddedWrite

variable {fails} {realOffset size : Nat} {st : Storage}

/-- The branch reads its padding, copies the data in and writes once. -/
theorem storeAndForwardWrite_flash (buffer : Nat → UInt8) :
    (storeAndForwardWrite cfg fails realOffset buffer size st).flash
      = flashAreaWrite cfg.area cfg.cell fails
          (readPadding cfg fails realOffset size st).2
          (u32Sub realOffset (realOffset % cfg.minFlashWriteSizeBytes))
          (splice (readPadding cfg fails realOffset size st).1
            (realOffset % cfg.minFlashWriteSizeBytes) size buffer)
          (realWriteSize cfg realOffset size) := rfl

/-- Reading padding leaves the cells as they were, and counts as one call. -/
theorem readPaddingBefore_flash (padding : Nat) :
    (readPaddingBefore cfg fails realOffset padding st).2
      = ⟨st.flash.cells, st.flash.calls + if padding ≠ 0 then 1 else 0⟩ := by
  rw [readPaddingBefore]
  by_cases hp : padding ≠ 0
  · rw [if_pos hp, if_pos hp]
    rfl
  · rw [if_neg hp, if_neg hp]
    rfl

theorem readPadding_flash :
    (readPadding cfg fails realOffset size st).2
      = ⟨st.flash.cells,
          st.flash.calls + paddingReads cfg realOffset size⟩ := by
  have hbefore : (readPaddingBefore cfg fails realOffset
      (realOffset % cfg.minFlashWriteSizeBytes) st).2 = _ :=
    readPaddingBefore_flash _
  rw [readPadding, paddingReads]
  by_cases hs : u32Add size (realOffset % cfg.minFlashWriteSizeBytes)
      < cfg.minFlashWriteSizeBytes
  · simp only [if_pos hs, flashAreaRead, hbefore, Nat.add_assoc]
  · simp only [if_neg hs, hbefore, Nat.add_zero]

/-- What the padding before the range holds when its read succeeds. -/
theorem readPaddingBefore_byte {padding i : Nat} (hi : i < padding)
    (hcall : fails st.flash.calls = false) :
    (readPaddingBefore cfg fails realOffset padding st).1 i
      = st.flash.cells (cfg.area.faOff + u32Sub realOffset padding + i) := by
  have h := flashAreaRead_byte cfg.area fails st.flash
    (u32Sub realOffset padding) st.pageBuffer 0 hi
  rw [Nat.zero_add, hcall] at h
  rw [readPaddingBefore, if_pos (by omega)]
  exact h

/-- What the padding behind the range holds when its read succeeds. -/
theorem readPadding_behind (hbound : realOffset + size < 4294967296) {i : Nat}
    (hi : realOffset % cfg.minFlashWriteSizeBytes + size + i
      < cfg.minFlashWriteSizeBytes)
    (hcall : fails (st.flash.calls
      + if realOffset % cfg.minFlashWriteSizeBytes ≠ 0 then 1 else 0) = false) :
    (readPadding cfg fails realOffset size st).1
        (realOffset % cfg.minFlashWriteSizeBytes + size + i)
      = st.flash.cells (cfg.area.faOff + (realOffset + size) + i) := by
  have hle : realOffset % cfg.minFlashWriteSizeBytes ≤ realOffset :=
    Nat.mod_le _ _
  have hbefore : (readPaddingBefore cfg fails realOffset
      (realOffset % cfg.minFlashWriteSizeBytes) st).2 = _ :=
    readPaddingBefore_flash _
  have hsmall : u32Add size (realOffset % cfg.minFlashWriteSizeBytes)
      < cfg.minFlashWriteSizeBytes := by
    rw [u32Add_eq (by omega)]
    omega
  rw [readPadding, if_pos hsmall, flashAreaRead_byte _ _ _ _ _ _ (by omega),
    hbefore]
  show (if fails (st.flash.calls + _) = true then _
    else st.flash.cells (cfg.area.faOff + u32Add realOffset size + i)) = _
  rw [hcall, u32Add_eq hbound]
  rfl

/-- When the reads succeed, `page_buffer` holds around the data what the flash
    holds around the stored range. -/
theorem readPadding_byte (hbound : realOffset + size < 4294967296)
    (hreads : ∀ n, st.flash.calls ≤ n →
      n < st.flash.calls + paddingReads cfg realOffset size → fails n = false)
    {i : Nat} (hi : i < realWriteSize cfg realOffset size)
    (hpad : i < realOffset % cfg.minFlashWriteSizeBytes
      ∨ realOffset % cfg.minFlashWriteSizeBytes + size ≤ i) :
    (readPadding cfg fails realOffset size st).1 i
      = st.flash.cells (cfg.area.faOff
          + (realOffset - realOffset % cfg.minFlashWriteSizeBytes) + i) := by
  have hle : realOffset % cfg.minFlashWriteSizeBytes ≤ realOffset :=
    Nat.mod_le _ _
  have hsum : u32Add size (realOffset % cfg.minFlashWriteSizeBytes)
      = size + realOffset % cfg.minFlashWriteSizeBytes := u32Add_eq (by omega)
  rw [realWriteSize, hsum] at hi
  rw [paddingReads, hsum] at hreads
  rcases hpad with hlt | hge
  · -- in front of the range: read by the first call, and kept by the second
    have hcall : fails st.flash.calls = false :=
      hreads _ (Nat.le_refl _) (by rw [if_pos (by omega)]; omega)
    have hbefore : (readPaddingBefore cfg fails realOffset
        (realOffset % cfg.minFlashWriteSizeBytes) st).1 i = _ :=
      readPaddingBefore_byte hlt hcall
    rw [u32Sub_eq hle (by omega)] at hbefore
    rw [readPadding, hsum]
    by_cases hs : size + realOffset % cfg.minFlashWriteSizeBytes
        < cfg.minFlashWriteSizeBytes
    · rw [if_pos hs, flashAreaRead_outside _ _ _ _ _ (Or.inl (by omega))]
      exact hbefore
    · rw [if_neg hs]
      exact hbefore
  · -- behind the range: there is such a byte only when the write is small
    by_cases hs : size + realOffset % cfg.minFlashWriteSizeBytes
        < cfg.minFlashWriteSizeBytes
    · rw [if_pos hs] at hi hreads
      obtain ⟨j, rfl⟩ : ∃ j, i
          = realOffset % cfg.minFlashWriteSizeBytes + size + j :=
        ⟨i - (realOffset % cfg.minFlashWriteSizeBytes + size), by omega⟩
      have hcall := hreads _ (Nat.le_add_right _ _)
        (Nat.add_lt_add_left (Nat.lt_succ_self _) _)
      rw [readPadding_behind hbound hi hcall]
      congr 1
      omega
    · rw [if_neg hs] at hi
      omega

/-- **ONE PADDED WRITE**: when its reads succeed, the branch programs the cells
    of the stored range and no others, or none when its write fails. -/
theorem storeAndForwardWrite_cell (buffer : Nat → UInt8)
    (hbound : realOffset + size < 4294967296)
    (hreads : ∀ n, st.flash.calls ≤ n →
      n < st.flash.calls + paddingReads cfg realOffset size → fails n = false)
    (a : Nat) :
    (storeAndForwardWrite cfg fails realOffset buffer size st).partition cfg a
      = if fails (st.flash.calls + paddingReads cfg realOffset size) = false
            ∧ realOffset ≤ a ∧ a < realOffset + size then
          cfg.cell.program (st.partition cfg a) (buffer (a - realOffset))
        else st.partition cfg a := by
  have hle : realOffset % cfg.minFlashWriteSizeBytes ≤ realOffset :=
    Nat.mod_le _ _
  have hwide : realOffset % cfg.minFlashWriteSizeBytes + size
      ≤ realWriteSize cfg realOffset size := by
    rw [realWriteSize, u32Add_eq (by omega)]
    split <;> omega
  show (storeAndForwardWrite cfg fails realOffset buffer size st).flash.cells
    (cfg.area.faOff + a) = _
  rw [storeAndForwardWrite_flash, readPadding_flash, u32Sub_eq hle (by omega)]
  by_cases hin : realOffset - realOffset % cfg.minFlashWriteSizeBytes ≤ a
      ∧ a < realOffset - realOffset % cfg.minFlashWriteSizeBytes
        + realWriteSize cfg realOffset size
  · obtain ⟨i, rfl⟩ : ∃ i, a
        = realOffset - realOffset % cfg.minFlashWriteSizeBytes + i :=
      ⟨a - (realOffset - realOffset % cfg.minFlashWriteSizeBytes), by omega⟩
    have hi : i < realWriteSize cfg realOffset size := by omega
    rw [← Nat.add_assoc, flashAreaWrite_inside _ _ _ _ _ hi]
    show (if fails (st.flash.calls + paddingReads cfg realOffset size) = true
      then _ else _) = _
    cases hf : fails (st.flash.calls + paddingReads cfg realOffset size) with
    | true =>
        rw [if_pos rfl, if_neg (fun h => nomatch h.1), Storage.partition,
          ← Nat.add_assoc]
    | false =>
        rw [if_neg (by decide), Storage.partition, ← Nat.add_assoc]
        by_cases hd : realOffset % cfg.minFlashWriteSizeBytes ≤ i
            ∧ i < realOffset % cfg.minFlashWriteSizeBytes + size
        · rw [splice_inside hd.1 hd.2,
            if_pos ⟨rfl, by omega, by omega⟩]
          congr 2
          omega
        · -- padding is programmed with what it holds
          rw [splice_outside (by omega),
            readPadding_byte hbound hreads hi (by omega),
            if_neg (by omega)]
          exact cfg.cell.program_same _
  · rw [flashAreaWrite_outside _ _ _ _ _ (by omega), if_neg (by omega)]
    rfl

end PaddedWrite

/-- An empty store at or above byte 8192 writes back what it read. -/
theorem storeAndForwardWrite_empty {realOffset : Nat}
    (hreal : realOffset < 4294967296) (buffer : Nat → UInt8) (st : Storage) :
    (storeAndForwardWrite cfg noFailure realOffset buffer 0 st).partition cfg
      = st.partition cfg := by
  funext a
  rw [storeAndForwardWrite_cell buffer (by omega)
    (fun n _ _ => (rfl : noFailure n = false)), if_neg (by omega)]

/-- **ONE STORE** in its region is the store of the byte memory. -/
theorem contextStore_refines (hl : UniformLayout cfg) {c : StoreCall}
    (hc : c.InRegion) (st : Storage) :
    ∃ st', smtcModemHalContextStore cfg noFailure c.ctxType c.offset c.buffer
        c.size st = some st'
      ∧ st'.partition cfg = c.toStore.apply (st.partition cfg) := by
  have hend := hc.end_le
  have hbound : c.realOffset + c.size < 4294967296 :=
    Nat.lt_of_le_of_lt hend (by decide)
  by_cases hlt : c.realOffset < addrStoreAndForwardContextOffset
  · obtain ⟨st', hrun, hpart⟩ := flashReadModifyWrite_ok hl c.buffer hbound st
    refine ⟨st', ?_, hpart⟩
    rw [contextStore_below cfg noFailure hlt]
    exact hrun
  · -- only an empty store can start where the last region ends
    have hsize : c.size = 0 := by omega
    refine ⟨storeAndForwardWrite cfg noFailure c.realOffset c.buffer c.size st,
      if_neg hlt, ?_⟩
    rw [hsize, storeAndForwardWrite_empty (by omega) c.buffer st]
    show _ = splice (st.partition cfg) c.realOffset c.size c.buffer
    rw [hsize, splice_zero]

/-- **A RUN OF STORES** is the run of the stores of the byte memory. -/
theorem storeAll_refines (hl : UniformLayout cfg) {cs : List StoreCall}
    (hcs : ∀ c ∈ cs, c.InRegion) (st : Storage) :
    ∃ st', storeAll cfg noFailure cs st = some st'
      ∧ st'.partition cfg
        = applyAll (st.partition cfg) (cs.map StoreCall.toStore) := by
  induction cs generalizing st with
  | nil => exact ⟨st, rfl, rfl⟩
  | cons c cs ih =>
      obtain ⟨st1, hrun1, hpart1⟩ :=
        contextStore_refines hl (hcs c (List.mem_cons_self ..)) st
      obtain ⟨st2, hrun2, hpart2⟩ :=
        ih (fun d hd => hcs d (List.mem_cons_of_mem _ hd)) st1
      refine ⟨st2, ?_, ?_⟩
      · simp only [storeAll, hrun1]
        exact hrun2
      · rw [hpart2, hpart1]
        rfl

/-- What a restore that succeeds puts in the caller's buffer. -/
theorem contextRestore_byte (ctxType : ModemContextType) (offset : Nat)
    (buffer : Nat → UInt8) {size i : Nat} (hi : i < size) (st : Storage) :
    (smtcModemHalContextRestore cfg noFailure ctxType offset buffer size st).1 i
      = st.partition cfg (privHalContextAddress ctxType offset + i) := by
  have h := flashAreaRead_byte cfg.area noFailure st.flash
    (privHalContextAddress ctxType offset) buffer 0 hi
  rw [Nat.zero_add] at h
  rw [Storage.partition, ← Nat.add_assoc]
  exact h

/-- **CONTEXT STORAGE REFINES A BYTE MEMORY**: after any sequence of stores of
    the five contexts below byte 8192, each inside its region, every restore
    returns byte for byte what the last store of that byte wrote, or the initial
    flash byte, and no other byte of the partition has changed. -/
theorem contextStorage_refines_byteMemory (hl : UniformLayout cfg)
    (cs : List StoreCall) (hcs : ∀ c ∈ cs, c.InRegion) (st : Storage) :
    ∃ st', storeAll cfg noFailure cs st = some st'
      ∧ (∀ (ctxType : ModemContextType) (offset size : Nat)
          (buffer : Nat → UInt8) (i : Nat), i < size →
          (smtcModemHalContextRestore cfg noFailure ctxType offset buffer size
              st').1 i
            = (lastStored (cs.map StoreCall.toStore)
                (privHalContextAddress ctxType offset + i)).getD
                (st.partition cfg (privHalContextAddress ctxType offset + i)))
      ∧ ∀ a, a < cfg.area.faSize →
          (∀ c ∈ cs, ¬ c.toStore.Covers a) →
          st'.partition cfg a = st.partition cfg a := by
  obtain ⟨st', hrun, hpart⟩ := storeAll_refines hl hcs st
  refine ⟨st', hrun, ?_, ?_⟩
  · intro ctxType offset size buffer i hi
    rw [contextRestore_byte ctxType offset buffer hi, hpart,
      applyAll_lastStored]
  · intro a _ hout
    rw [hpart]
    refine applyAll_untouched _ ?_
    intro w hw
    obtain ⟨c, hc, rfl⟩ := List.mem_map.mp hw
    exact hout c hc

/-- Four pages of 2 KiB of NOR flash with 8-byte write blocks, the last ones of
    a 1 MiB device. -/
def fourPagePartition : StorageConfig where
  area := ⟨1040384, 8192⟩
  cell := nor
  pageInfo := fun x => ⟨x / 2048 * 2048, 2048⟩
  pageBufferSize := 2048
  minFlashWriteSizeBytes := 8

theorem fourPagePartition_uniform : UniformLayout fourPagePartition where
  page_pos := by decide
  page_lt := by decide
  off_aligned := by decide
  size_aligned := by decide
  info := fun _ => rfl

/-- Eight pages of 2 KiB of NOR flash with 8-byte write blocks. -/
def eightPagePartition : StorageConfig where
  area := ⟨1032192, 16384⟩
  cell := nor
  pageInfo := fun x => ⟨x / 2048 * 2048, 2048⟩
  pageBufferSize := 2048
  minFlashWriteSizeBytes := 8

theorem eightPagePartition_uniform : UniformLayout eightPagePartition where
  page_pos := by decide
  page_lt := by decide
  off_aligned := by decide
  size_aligned := by decide
  info := fun _ => rfl

/-- The device with every cell holding `b`. -/
def filledStorage (b : UInt8) : Storage where
  flash := ⟨fun _ => b, 0⟩
  pageBuffer := fun _ => 0

/-- A key survives a secure-element store across a page boundary and a FUOTA
    store of two whole pages. -/
theorem contextStorage_refines_fourPages :
    ∃ st', storeAll fourPagePartition noFailure
        [⟨.keyModem, 4, fun i => UInt8.ofNat (10 + i), 3⟩,
          ⟨.secureElement, 1200, fun _ => 0x55, 200⟩,
          ⟨.fuota, 0, fun _ => 0xAA, 4096⟩] (filledStorage 0) = some st'
      ∧ (smtcModemHalContextRestore fourPagePartition noFailure .keyModem 4
          (fun _ => 0) 3 st').1 1 = 11 := by
  obtain ⟨st', hrun, hrestore, -⟩ :=
    contextStorage_refines_byteMemory fourPagePartition_uniform
      [⟨.keyModem, 4, fun i => UInt8.ofNat (10 + i), 3⟩,
        ⟨.secureElement, 1200, fun _ => 0x55, 200⟩,
        ⟨.fuota, 0, fun _ => 0xAA, 4096⟩]
      (by
        intro c hc
        simp only [List.mem_cons, List.not_mem_nil, or_false] at hc
        rcases hc with rfl | rfl | rfl
        · exact ⟨(256, 512), rfl, by decide, by decide⟩
        · exact ⟨(768, 4096), rfl, by decide, by decide⟩
        · exact ⟨(4096, 8192), rfl, by decide, by decide⟩)
      (filledStorage 0)
  exact ⟨st', hrun, hrestore .keyModem 4 3 (fun _ => 0) 1 (by decide)⟩

end ContextStorage
