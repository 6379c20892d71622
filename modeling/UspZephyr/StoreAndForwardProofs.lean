import UspZephyr.ContextStorageProofs

/-! # Which store-and-forward writes are stored

    Above byte 8192 a store is one `flash_area_write`, padded in front of the
    data to the start of its write block.  Behind the data it is padded only
    when the whole write is smaller than one block, and the device refuses a
    write that does not end with a block; `smtc_modem_hal_context_store` returns
    nothing, so the data is lost in silence.  `storeAndForward_stored_iff` says
    for which offsets and sizes that happens. -/

namespace StoreAndForward

open ByteMemory WordArithmetic Flash ContextStorage

/-- A store in the partition that `page_buffer` can hold with its padding. -/
structure Request (cfg : StorageConfig) (offset size : Nat) : Prop where
  min_pos : 0 < cfg.minFlashWriteSizeBytes
  size_pos : 0 < size
  in_partition : addrStoreAndForwardContextOffset + offset + size
    ≤ cfg.area.faSize
  partition_lt : cfg.area.faSize < 4294967296
  buffered : realWriteSize cfg (addrStoreAndForwardContextOffset + offset) size
    ≤ cfg.pageBufferSize

/-- The offset and the length of the write are multiples of the write block. -/
def WriteAligned (cfg : StorageConfig) (offset size : Nat) : Prop :=
  cfg.minFlashWriteSizeBytes ∣ addrStoreAndForwardContextOffset + offset
      - (addrStoreAndForwardContextOffset + offset)
        % cfg.minFlashWriteSizeBytes
    ∧ cfg.minFlashWriteSizeBytes
      ∣ realWriteSize cfg (addrStoreAndForwardContextOffset + offset) size

instance (cfg : StorageConfig) (offset size : Nat) :
    Decidable (WriteAligned cfg offset size) :=
  inferInstanceAs (Decidable (_ ∧ _))

/-- The flash contract for one store: the reads succeed, and the write fails
    exactly when it is not aligned. -/
structure WriteBlockContract (cfg : StorageConfig) (fails : Nat → Bool)
    (offset size : Nat) (st : Storage) : Prop where
  reads : ∀ n, st.flash.calls ≤ n →
    n < st.flash.calls
      + paddingReads cfg (addrStoreAndForwardContextOffset + offset) size →
    fails n = false
  write : fails (st.flash.calls
      + paddingReads cfg (addrStoreAndForwardContextOffset + offset) size)
    = !decide (WriteAligned cfg offset size)

/-- The target bytes are erased. -/
def TargetErased (cfg : StorageConfig) (offset size : Nat) (st : Storage) :
    Prop :=
  ∀ i, i < size →
    st.partition cfg (addrStoreAndForwardContextOffset + offset + i) = 0xFF

/-- A restore of the range returns the data, and no other byte of the partition
    has changed. -/
def Stored (cfg : StorageConfig) (offset size : Nat) (data : Nat → UInt8)
    (st st' : Storage) : Prop :=
  (∀ (buffer : Nat → UInt8) (i : Nat), i < size →
    (smtcModemHalContextRestore cfg noFailure .storeAndForward offset buffer
      size st').1 i = data i)
  ∧ ∀ a, a < cfg.area.faSize →
      a < addrStoreAndForwardContextOffset + offset
        ∨ addrStoreAndForwardContextOffset + offset + size ≤ a →
      st'.partition cfg a = st.partition cfg a

variable {cfg : StorageConfig} {fails : Nat → Bool} {offset size : Nat}
  {data : Nat → UInt8} {st : Storage}

/-- Inside the partition the context address does not wrap. -/
theorem Request.realOffset (hr : Request cfg offset size) :
    privHalContextAddress .storeAndForward offset
      = addrStoreAndForwardContextOffset + offset := by
  have hin := hr.in_partition
  have hlt := hr.partition_lt
  exact u32Add_eq (by omega)

/-- The write is aligned when, with the padding before it, the data is shorter
    than one block or fills its last one. -/
theorem writeAligned_iff (hr : Request cfg offset size) :
    WriteAligned cfg offset size
      ↔ size + (addrStoreAndForwardContextOffset + offset)
            % cfg.minFlashWriteSizeBytes < cfg.minFlashWriteSizeBytes
        ∨ cfg.minFlashWriteSizeBytes
          ∣ size + (addrStoreAndForwardContextOffset + offset)
            % cfg.minFlashWriteSizeBytes := by
  have hin := hr.in_partition
  have hlt := hr.partition_lt
  have hmod := Nat.mod_le (addrStoreAndForwardContextOffset + offset)
    cfg.minFlashWriteSizeBytes
  have hstart : cfg.minFlashWriteSizeBytes
      ∣ addrStoreAndForwardContextOffset + offset
        - (addrStoreAndForwardContextOffset + offset)
          % cfg.minFlashWriteSizeBytes :=
    Nat.dvd_sub_mod _
  rw [WriteAligned, realWriteSize, u32Add_eq (by omega)]
  split
  case isTrue hs =>
      constructor
      · intro _
        exact Or.inl hs
      · intro _
        exact ⟨hstart, Nat.dvd_refl _⟩
  case isFalse hs =>
      constructor
      · rintro ⟨-, hlen⟩
        exact Or.inr hlen
      · rintro (h | hlen)
        · exact absurd h hs
        · exact ⟨hstart, hlen⟩

/-- What the store leaves in every byte of the partition: on erased target
    bytes the data when the write is aligned, and nothing new otherwise. -/
theorem storeAndForward_cell (hr : Request cfg offset size)
    (hc : WriteBlockContract cfg fails offset size st)
    (he : TargetErased cfg offset size st) :
    ∃ st', smtcModemHalContextStore cfg fails .storeAndForward offset data size
        st = some st'
      ∧ ∀ a, st'.partition cfg a
        = if WriteAligned cfg offset size
              ∧ addrStoreAndForwardContextOffset + offset ≤ a
              ∧ a < addrStoreAndForwardContextOffset + offset + size then
            data (a - (addrStoreAndForwardContextOffset + offset))
          else st.partition cfg a := by
  have hin := hr.in_partition
  have hlt := hr.partition_lt
  refine ⟨storeAndForwardWrite cfg fails
    (addrStoreAndForwardContextOffset + offset) data size st, ?_, ?_⟩
  · rw [smtcModemHalContextStore, hr.realOffset]
    exact if_neg (by omega)
  · intro a
    rw [storeAndForwardWrite_cell data (by omega) hc.reads, hc.write]
    by_cases hal : WriteAligned cfg offset size
    · by_cases hrange : addrStoreAndForwardContextOffset + offset ≤ a
          ∧ a < addrStoreAndForwardContextOffset + offset + size
      · have hcell := he (a - (addrStoreAndForwardContextOffset + offset))
          (by omega)
        rw [Nat.add_sub_cancel' hrange.1] at hcell
        rw [if_pos ⟨by simp [hal], hrange⟩, if_pos ⟨hal, hrange⟩, hcell]
        exact cfg.cell.program_erased _
      · rw [if_neg (fun h => hrange h.2), if_neg (fun h => hrange h.2)]
    · rw [if_neg (fun h => hal (by simpa using h.1)),
        if_neg (fun h => hal h.1)]

/-- **WHICH STORE-AND-FORWARD WRITES ARE STORED**: exactly those that, with the
    padding before them, are shorter than one write block or a whole number of
    blocks, and those of nothing but `0xFF`. -/
theorem storeAndForward_stored_iff (hr : Request cfg offset size)
    (hc : WriteBlockContract cfg fails offset size st)
    (he : TargetErased cfg offset size st) :
    ∃ st', smtcModemHalContextStore cfg fails .storeAndForward offset data size
        st = some st'
      ∧ (Stored cfg offset size data st st'
        ↔ size + (addrStoreAndForwardContextOffset + offset)
              % cfg.minFlashWriteSizeBytes < cfg.minFlashWriteSizeBytes
          ∨ cfg.minFlashWriteSizeBytes
            ∣ size + (addrStoreAndForwardContextOffset + offset)
              % cfg.minFlashWriteSizeBytes
          ∨ ∀ i, i < size → data i = 0xFF) := by
  obtain ⟨st', hrun, hcell⟩ := storeAndForward_cell hr hc he
  refine ⟨st', hrun, ?_⟩
  rw [← or_assoc, ← writeAligned_iff hr]
  have hrestore : ∀ (buffer : Nat → UInt8) (i : Nat), i < size →
      (smtcModemHalContextRestore cfg noFailure .storeAndForward offset buffer
        size st').1 i
        = if WriteAligned cfg offset size then data i else 0xFF := by
    intro buffer i hi
    rw [contextRestore_byte _ _ _ hi, hr.realOffset, hcell, he i hi]
    by_cases hal : WriteAligned cfg offset size
    · rw [if_pos ⟨hal, by omega, by omega⟩, if_pos hal,
        Nat.add_sub_cancel_left]
    · rw [if_neg (fun h => hal h.1), if_neg hal]
  have hothers : ∀ a, a < cfg.area.faSize →
      a < addrStoreAndForwardContextOffset + offset
        ∨ addrStoreAndForwardContextOffset + offset + size ≤ a →
      st'.partition cfg a = st.partition cfg a := by
    intro a _ hout
    rw [hcell, if_neg (by omega)]
  constructor
  · rintro ⟨hstored, -⟩
    by_cases hal : WriteAligned cfg offset size
    · exact Or.inl hal
    · -- a refused write leaves the range erased
      refine Or.inr ?_
      intro i hi
      rw [← hstored (fun _ => 0) i hi, hrestore _ i hi, if_neg hal]
  · intro h
    refine ⟨?_, hothers⟩
    intro buffer i hi
    rw [hrestore buffer i hi]
    rcases h with hal | hff
    · exact if_pos hal
    · rw [hff i hi, ite_self]

/-- Three bytes in the middle of a block are stored. -/
theorem storeAndForward_stored_three :
    ∃ st', smtcModemHalContextStore eightPagePartition noFailure
        .storeAndForward 4 (fun i => UInt8.ofNat i) 3 (filledStorage 0xFF)
        = some st'
      ∧ Stored eightPagePartition 4 3 (fun i => UInt8.ofNat i)
          (filledStorage 0xFF) st' := by
  have hr : Request eightPagePartition 4 3 :=
    ⟨by decide, by decide, by decide, by decide, by decide⟩
  have hc : WriteBlockContract eightPagePartition noFailure 4 3
      (filledStorage 0xFF) := ⟨fun _ _ _ => rfl, by decide⟩
  have he : TargetErased eightPagePartition 4 3 (filledStorage 0xFF) :=
    fun _ _ => rfl
  obtain ⟨st', hrun, hiff⟩ : ∃ st', _ = some st' ∧ (Stored eightPagePartition 4
      3 (fun i => UInt8.ofNat i) _ st' ↔ _) :=
    storeAndForward_stored_iff hr hc he
  exact ⟨st', hrun, hiff.mpr (Or.inl (by decide))⟩

/-- **TWELVE BYTES ARE LOST**: the write of twelve bytes at the start of a
    block is refused, and the range stays erased. -/
theorem twelve_bytes_lost :
    Request eightPagePartition 0 12
      ∧ WriteBlockContract eightPagePartition (fun n => n == 0) 0 12
          (filledStorage 0xFF)
      ∧ TargetErased eightPagePartition 0 12 (filledStorage 0xFF)
      ∧ ∃ st', smtcModemHalContextStore eightPagePartition (fun n => n == 0)
            .storeAndForward 0 (fun _ => 0) 12 (filledStorage 0xFF) = some st'
        ∧ ¬ Stored eightPagePartition 0 12 (fun _ => 0) (filledStorage 0xFF)
            st' := by
  refine ⟨⟨by decide, by decide, by decide, by decide, by decide⟩, ⟨?_, ?_⟩,
    fun _ _ => rfl, _, rfl, ?_⟩
  · intro n h1 h2
    exact absurd h2 (Nat.not_lt.mpr h1)
  · decide
  · intro h
    exact absurd (h.1 (fun _ => 0) 0 (by decide)) (by decide)

end StoreAndForward
