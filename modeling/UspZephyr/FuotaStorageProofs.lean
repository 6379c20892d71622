import UspZephyr.ContextStorageProofs
import UspZephyr.StepRunProofs

/-! # How far FUOTA storage is rewritable

    The FUOTA context starts at byte 4096 of the partition and has no end of its
    own: an image of more than 4096 bytes runs into store-and-forward.  Which
    way its bytes are stored depends on where the STORE starts, not on where the
    bytes go.  A store that starts below byte 8192 erases and rewrites whatever
    store-and-forward pages it reaches; one that starts above writes in place,
    without an erase, on top of what is there.

    Both are right as long as every byte at or above 8192 already holds the
    value stored (`fuota_rewritable`), and wrong as soon as one does not
    (`unchanging_of_fuotaHolds`). -/

namespace FuotaStorage

open ByteMemory WordArithmetic Flash ContextStorage StepRun

variable {cfg : StorageConfig}

/-- A FUOTA store of whole write blocks inside the partition. -/
structure FuotaRequest (cfg : StorageConfig) (c : StoreCall) : Prop where
  fuota : c.ctxType = .fuota
  in_partition : addrFuotaContextOffset + c.offset + c.size ≤ cfg.area.faSize
  offset_blocks : cfg.minFlashWriteSizeBytes ∣ c.offset
  size_blocks : cfg.minFlashWriteSizeBytes ∣ c.size

/-- One store, on a device whose calls succeed. -/
def storeStep (cfg : StorageConfig) (st : Storage) (c : StoreCall) :
    Option Storage :=
  smtcModemHalContextStore cfg noFailure c.ctxType c.offset c.buffer c.size st

/-- What the stores `cs` were to leave of the storage `st`: every FUOTA restore
    returns the bytes stored last, and every store-and-forward restore what it
    returned before. -/
def FuotaHolds (cfg : StorageConfig) (cs : List StoreCall) (st st' : Storage) :
    Prop :=
  (∀ (offset size : Nat) (buffer : Nat → UInt8) (i : Nat), i < size →
    addrFuotaContextOffset + offset + size ≤ cfg.area.faSize →
    (smtcModemHalContextRestore cfg noFailure .fuota offset buffer size st').1 i
      = (lastStored (cs.map StoreCall.toStore)
          (addrFuotaContextOffset + offset + i)).getD
          (st.partition cfg (addrFuotaContextOffset + offset + i)))
  ∧ ∀ (offset size : Nat) (buffer : Nat → UInt8) (i : Nat), i < size →
    addrStoreAndForwardContextOffset + offset + size ≤ cfg.area.faSize →
    (smtcModemHalContextRestore cfg noFailure .storeAndForward offset buffer
        size st').1 i
      = (smtcModemHalContextRestore cfg noFailure .storeAndForward offset buffer
        size st).1 i

/-- Every byte the call stores at or above byte 8192 is there already. -/
def Unchanging (cfg : StorageConfig) (st : Storage) (c : StoreCall) : Prop :=
  ∀ a, addrStoreAndForwardContextOffset ≤ a → c.toStore.Covers a →
    c.buffer (a - c.realOffset) = st.partition cfg a

/-- The store does no harm: it is unchanging, and `page_buffer` can hold it
    where it is written in place. -/
def Harmless (cfg : StorageConfig) (st : Storage) (c : StoreCall) : Prop :=
  Unchanging cfg st c
    ∧ (addrStoreAndForwardContextOffset ≤ c.realOffset →
      realWriteSize cfg c.realOffset c.size ≤ cfg.pageBufferSize)

/-- A store that ends at or below byte 8192 does no harm unless it is empty. -/
theorem harmless_of_end_le {c : StoreCall} (st : Storage) (hsize : 0 < c.size)
    (hend : c.realOffset + c.size ≤ addrStoreAndForwardContextOffset) :
    Harmless cfg st c := by
  constructor
  · rintro a ha ⟨-, hlt⟩
    have hcov : a < c.realOffset + c.size := hlt
    omega
  · intro hge
    omega

section OneStore

variable {c : StoreCall} (hsize : cfg.area.faSize < 4294967296)
  (hc : FuotaRequest cfg c)

include hsize hc

/-- Inside the partition the FUOTA address does not wrap. -/
theorem FuotaRequest.realOffset_eq :
    c.realOffset = addrFuotaContextOffset + c.offset := by
  have hin := hc.in_partition
  rw [StoreCall.realOffset, hc.fuota]
  exact u32Add_eq (by omega)

/-- What a FUOTA store leaves in every byte of the partition: below byte 8192
    it is a store, and above it programs what is there. -/
theorem fuotaStore_cell (hl : UniformLayout cfg) (st : Storage) :
    ∃ st', storeStep cfg st c = some st'
      ∧ ∀ a, st'.partition cfg a
        = if c.toStore.Covers a then
            if c.realOffset < addrStoreAndForwardContextOffset then
              c.buffer (a - c.realOffset)
            else cfg.cell.program (st.partition cfg a)
              (c.buffer (a - c.realOffset))
          else st.partition cfg a := by
  have hreal := hc.realOffset_eq hsize
  have hin := hc.in_partition
  by_cases hlt : c.realOffset < addrStoreAndForwardContextOffset
  · obtain ⟨st', hrun, hpart⟩ :=
      flashReadModifyWrite_ok hl c.buffer
        (show c.realOffset + c.size < 4294967296 by omega) st
    refine ⟨st', ?_, ?_⟩
    · rw [storeStep, contextStore_below cfg noFailure hlt]
      exact hrun
    · intro a
      rw [hpart, if_pos hlt]
      rfl
  · refine ⟨storeAndForwardWrite cfg noFailure c.realOffset c.buffer c.size st,
      if_neg hlt, ?_⟩
    intro a
    rw [storeAndForwardWrite_cell c.buffer (by omega) (fun n _ _ =>
      (rfl : noFailure n = false)), if_neg hlt]
    by_cases hcov : c.toStore.Covers a
    · rw [if_pos hcov, if_pos ⟨rfl, hcov⟩]
    · rw [if_neg hcov, if_neg (fun h => hcov h.2)]

/-- **ONE HARMLESS STORE** is the store of the byte memory, and leaves
    store-and-forward as it was. -/
theorem harmless_store (hl : UniformLayout cfg) {st : Storage}
    (hok : Unchanging cfg st c) :
    ∃ st', storeStep cfg st c = some st'
      ∧ st'.partition cfg = c.toStore.apply (st.partition cfg)
      ∧ ∀ a, addrStoreAndForwardContextOffset ≤ a →
        st'.partition cfg a = st.partition cfg a := by
  obtain ⟨st', hrun, hcell⟩ := fuotaStore_cell hsize hc hl st
  have hstore : st'.partition cfg = c.toStore.apply (st.partition cfg) := by
    funext a
    show _ = if c.toStore.Covers a then c.buffer (a - c.realOffset)
      else st.partition cfg a
    rw [hcell a]
    by_cases hcov : c.toStore.Covers a
    · rw [if_pos hcov, if_pos hcov]
      by_cases hlt : c.realOffset < addrStoreAndForwardContextOffset
      · rw [if_pos hlt]
      · -- in place, over a byte that is there already
        have hge : c.realOffset ≤ a := hcov.1
        rw [if_neg hlt, hok a (by omega) hcov]
        exact cfg.cell.program_same _
    · rw [if_neg hcov, if_neg hcov]
  refine ⟨st', hrun, hstore, ?_⟩
  intro a ha
  rw [hstore]
  show (if c.toStore.Covers a then c.buffer (a - c.realOffset)
    else st.partition cfg a) = _
  by_cases hcov : c.toStore.Covers a
  · rw [if_pos hcov, hok a ha hcov]
  · rw [if_neg hcov]

end OneStore

/-- **A RUN OF HARMLESS STORES** is the run of the stores of the byte memory. -/
theorem run_harmless (hl : UniformLayout cfg)
    (hsize : cfg.area.faSize < 4294967296) {cs : List StoreCall}
    (hcs : ∀ c ∈ cs, FuotaRequest cfg c) {st : Storage}
    (hok : Meets (storeStep cfg) (Harmless cfg) st cs) :
    ∃ st', run (storeStep cfg) st cs = some st'
      ∧ st'.partition cfg
        = applyAll (st.partition cfg) (cs.map StoreCall.toStore)
      ∧ ∀ a, addrStoreAndForwardContextOffset ≤ a →
        st'.partition cfg a = st.partition cfg a := by
  induction cs generalizing st with
  | nil => exact ⟨st, rfl, rfl, fun _ _ => rfl⟩
  | cons c cs ih =>
      obtain ⟨st1, hstep, hpart, hkept⟩ :=
        harmless_store hsize (hcs c List.mem_cons_self) hl hok.1.1
      obtain ⟨st', hrun, hall, hrest⟩ :=
        ih (fun d hd => hcs d (List.mem_cons_of_mem _ hd)) (hok.2 st1 hstep)
      refine ⟨st', ?_, ?_, ?_⟩
      · show (storeStep cfg st c).bind (fun t => run (storeStep cfg) t cs) = _
        rw [hstep]
        exact hrun
      · rw [hall, hpart]
        rfl
      · intro a ha
        rw [hrest a ha, hkept a ha]

/-- **FUOTA STORAGE IS REWRITABLE** in every run of harmless stores. -/
theorem fuota_rewritable (hl : UniformLayout cfg)
    (hsize : cfg.area.faSize < 4294967296) (cs : List StoreCall)
    (hcs : ∀ c ∈ cs, FuotaRequest cfg c) (st : Storage)
    (hok : Meets (storeStep cfg) (Harmless cfg) st cs) :
    ∃ st', run (storeStep cfg) st cs = some st' ∧ FuotaHolds cfg cs st st' := by
  obtain ⟨st', hrun, hpart, hkept⟩ := run_harmless hl hsize hcs hok
  refine ⟨st', hrun, ?_, ?_⟩
  · intro offset size buffer i hi hin
    rw [contextRestore_byte _ _ _ hi, hpart, applyAll_lastStored]
    have hreal : privHalContextAddress .fuota offset
        = addrFuotaContextOffset + offset := u32Add_eq (by omega)
    rw [hreal]
  · intro offset size buffer i hi hin
    have hreal : privHalContextAddress .storeAndForward offset
        = addrStoreAndForwardContextOffset + offset := u32Add_eq (by omega)
    rw [contextRestore_byte _ _ _ hi, contextRestore_byte _ _ _ hi, hreal]
    exact hkept _ (by omega)

/-- **THE CONDITION IS NEEDED**: when what the stores so far were to leave is
    there, and still is after one store more, that store was unchanging. -/
theorem unchanging_of_fuotaHolds (hsize : cfg.area.faSize < 4294967296)
    {cs : List StoreCall} {c : StoreCall} (hc : FuotaRequest cfg c)
    {st t t' : Storage} (hbefore : FuotaHolds cfg cs st t)
    (hafter : FuotaHolds cfg (cs ++ [c]) st t') : Unchanging cfg t c := by
  intro a ha hcov
  have hin := hc.in_partition
  have hreal := hc.realOffset_eq hsize
  have hlo : c.realOffset ≤ a := hcov.1
  have hhi : a < c.realOffset + c.size := hcov.2
  have hfuota : addrFuotaContextOffset ≤ addrStoreAndForwardContextOffset := by
    decide
  have hF : privHalContextAddress .fuota (a - addrFuotaContextOffset)
      = addrFuotaContextOffset + (a - addrFuotaContextOffset) :=
    u32Add_eq (by omega)
  have hS : privHalContextAddress .storeAndForward
      (a - addrStoreAndForwardContextOffset)
      = addrStoreAndForwardContextOffset
        + (a - addrStoreAndForwardContextOffset) := u32Add_eq (by omega)
  -- both contexts restore the byte `a`
  have hstored := hafter.1 (a - addrFuotaContextOffset) 1 (fun _ => 0) 0
    Nat.one_pos (by omega)
  have hkept' := hafter.2 (a - addrStoreAndForwardContextOffset) 1
    (fun _ => 0) 0 Nat.one_pos (by omega)
  have hkept := hbefore.2 (a - addrStoreAndForwardContextOffset) 1
    (fun _ => 0) 0 Nat.one_pos (by omega)
  rw [contextRestore_byte _ _ _ Nat.one_pos, hF, Nat.add_zero,
    Nat.add_sub_cancel' (by omega), List.map_append, List.map_singleton,
    lastStored_concat _ hcov] at hstored
  rw [contextRestore_byte _ _ _ Nat.one_pos,
    contextRestore_byte _ _ _ Nat.one_pos, hS, Nat.add_zero,
    Nat.add_sub_cancel' ha] at hkept' hkept
  exact hstored.symm.trans (hkept'.trans hkept.symm)

/-- Two stores of eight bytes at FUOTA offset 0, the second over the first, and
    one of sixteen bytes across a page boundary. -/
theorem fuota_rewritable_three :
    ∃ st', run (storeStep eightPagePartition) (filledStorage 0xFF)
        [⟨.fuota, 0, fun _ => 0x00, 8⟩, ⟨.fuota, 0, fun _ => 0xA5, 8⟩,
          ⟨.fuota, 2040, fun _ => 0x5A, 16⟩] = some st'
      ∧ FuotaHolds eightPagePartition
          [⟨.fuota, 0, fun _ => 0x00, 8⟩, ⟨.fuota, 0, fun _ => 0xA5, 8⟩,
            ⟨.fuota, 2040, fun _ => 0x5A, 16⟩] (filledStorage 0xFF) st' := by
  refine fuota_rewritable eightPagePartition_uniform (by decide) _ ?_ _ ?_
  · intro c hc
    simp only [List.mem_cons, List.not_mem_nil, or_false] at hc
    rcases hc with rfl | rfl | rfl
    · exact ⟨rfl, by decide, by decide, by decide⟩
    · exact ⟨rfl, by decide, by decide, by decide⟩
    · exact ⟨rfl, by decide, by decide, by decide⟩
  · refine ⟨harmless_of_end_le _ (by decide) (by decide), ?_⟩
    intro t _
    refine ⟨harmless_of_end_le _ (by decide) (by decide), ?_⟩
    intro u _
    exact ⟨harmless_of_end_le _ (by decide) (by decide), fun _ _ => trivial⟩

/-- **AN OVERWRITE ABOVE 4096 IS NOT ERASED**: `0x0F` stored over `0xF0` at
    FUOTA offset 4096 is restored as `0x00`, and store-and-forward has changed
    as well. -/
theorem fuota_overwrite_lost :
    (∀ c ∈ ([⟨.fuota, 4096, fun _ => 0xF0, 8⟩,
        ⟨.fuota, 4096, fun _ => 0x0F, 8⟩] : List StoreCall),
      FuotaRequest eightPagePartition c)
    ∧ ∃ st', run (storeStep eightPagePartition) (filledStorage 0xFF)
          [⟨.fuota, 4096, fun _ => 0xF0, 8⟩,
            ⟨.fuota, 4096, fun _ => 0x0F, 8⟩] = some st'
      ∧ (smtcModemHalContextRestore eightPagePartition noFailure .fuota 4096
          (fun _ => 0xFF) 8 st').1 0 = 0x00
      ∧ (smtcModemHalContextRestore eightPagePartition noFailure
          .storeAndForward 0 (fun _ => 0xFF) 8 st').1 0 = 0x00
      ∧ ¬ FuotaHolds eightPagePartition [⟨.fuota, 4096, fun _ => 0xF0, 8⟩,
          ⟨.fuota, 4096, fun _ => 0x0F, 8⟩] (filledStorage 0xFF) st' := by
  refine ⟨?_, _, rfl, by decide, by decide, ?_⟩
  · intro c hc
    simp only [List.mem_cons, List.not_mem_nil, or_false] at hc
    rcases hc with rfl | rfl
    · exact ⟨rfl, by decide, by decide, by decide⟩
    · exact ⟨rfl, by decide, by decide, by decide⟩
  · intro h
    exact absurd (h.1 4096 8 (fun _ => 0xFF) 0 (by decide) (by decide))
      (by decide)

end FuotaStorage
