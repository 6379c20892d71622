import UspZephyr.ContextStorageProofs

/-! # What a failing flash call does to the other contexts

    `flash_read_modify_write` looks at no return code.  A page whose read failed
    is rewritten with `0xFF` around the stored bytes, and a page whose write
    failed is left erased, so the contexts that share it are lost.  This module
    says exactly which patterns of failure spare the neighbours of a store, and
    that a single failing write does not. -/

namespace StorageFailure

open ByteMemory WordArithmetic Flash ContextStorage

/-- No byte of the partition outside the stored range has changed. -/
def NeighboursKept (cfg : StorageConfig) (offset size : Nat)
    (st st' : Storage) : Prop :=
  ∀ a, a < cfg.area.faSize → a < offset ∨ offset + size ≤ a →
    st'.partition cfg a = st.partition cfg a

/-- The page numbered `q` loses no neighbour of the stored range: its erase
    fails and what is then written over the neighbours, if anything, is what was
    read from them; or its read and its write both succeed; or its erase fails and
    programming `0xFF` keeps the neighbours; or they were `0xFF`.
    Its three calls come after those of the pages before it. -/
def PageSpared (cfg : StorageConfig) (fails : Nat → Bool) (offset size : Nat)
    (st : Storage) (q : Nat) : Prop :=
  let first := st.flash.calls + 3 * (q - offset / cfg.pageBufferSize)
  let Neighbours (P : UInt8 → Prop) :=
    ∀ a, a < cfg.area.faSize → a < offset ∨ offset + size ≤ a →
      a / cfg.pageBufferSize = q → P (st.partition cfg a)
  (fails (first + 1) = true ∧ (fails first = false ∨ fails (first + 2) = true))
    ∨ (fails first = false ∧ fails (first + 2) = false)
    ∨ (fails (first + 1) = true
      ∧ Neighbours fun v => cfg.cell.program v 0xFF = v)
    ∨ Neighbours fun v => v = 0xFF

variable {cfg : StorageConfig} (fails : Nat → Bool)

/-- A neighbour on a touched page survives exactly when its page was not erased
    and it was written back or not at all, or it was read and written back, or
    programming `0xFF` on the page that was not erased keeps it, or it was
    blank. -/
theorem neighbour_survives_iff {c offset size a : Nat} {buffer : Nat → UInt8}
    (hout : a < offset ∨ offset + size ≤ a) (v : UInt8) :
    cellAfterTurn cfg fails c (patchAt offset buffer size a) v = v
      ↔ (fails (c + 1) = true ∧ (fails c = false ∨ fails (c + 2) = true))
        ∨ (fails c = false ∧ fails (c + 2) = false)
        ∨ (fails (c + 1) = true ∧ cfg.cell.program v 0xFF = v) ∨ v = 0xFF := by
  rw [patchAt_eq_none hout]
  exact rewritten_none_eq_iff cfg.cell _ _ _ v

/-- A page is spared exactly when each neighbour on it survives: its three calls
    are the same for all of them. -/
theorem pageSpared_iff {offset size q : Nat} (buffer : Nat → UInt8)
    (st : Storage) :
    PageSpared cfg fails offset size st q
      ↔ ∀ a, a < cfg.area.faSize → a < offset ∨ offset + size ≤ a →
          a / cfg.pageBufferSize = q →
          cellAfterTurn cfg fails
            (st.flash.calls + 3 * (q - offset / cfg.pageBufferSize))
            (patchAt offset buffer size a) (st.partition cfg a)
            = st.partition cfg a := by
  unfold PageSpared
  generalize st.flash.calls + 3 * (q - offset / cfg.pageBufferSize) = c
  constructor
  · intro hspared a ha hout hq
    rw [neighbour_survives_iff fails hout]
    rcases hspared with herase | hrw | ⟨herase, hkeeps⟩ | hblank
    · exact Or.inl herase
    · exact Or.inr (Or.inl hrw)
    · exact Or.inr (Or.inr (Or.inl ⟨herase, hkeeps a ha hout hq⟩))
    · exact Or.inr (Or.inr (Or.inr (hblank a ha hout hq)))
  · intro hkept
    have hsurvives := fun a ha hout hq =>
      (neighbour_survives_iff fails hout _).mp (hkept a ha hout hq)
    by_cases hrw : fails c = false ∧ fails (c + 2) = false
    · exact Or.inr (Or.inl hrw)
    · by_cases herase : fails (c + 1) = true
      · by_cases hback : fails c = false ∨ fails (c + 2) = true
        · exact Or.inl ⟨herase, hback⟩
        · -- `0xFF` goes over neighbours that were not erased
          refine Or.inr (Or.inr (Or.inl ⟨herase, fun a ha hout hq => ?_⟩))
          rcases hsurvives a ha hout hq with
            ⟨-, hback'⟩ | hrw' | ⟨-, hkeeps⟩ | hff
          · exact absurd hback' hback
          · exact absurd hrw' hrw
          · exact hkeeps
          · rw [hff]
            exact cfg.cell.program_same 0xFF
      · refine Or.inr (Or.inr (Or.inr fun a ha hout hq => ?_))
        rcases hsurvives a ha hout hq with
          ⟨herase', -⟩ | hrw' | ⟨herase', -⟩ | hff
        · exact absurd herase' herase
        · exact absurd hrw' hrw
        · exact absurd herase' herase
        · exact hff

/-- **WHEN A STORE SPARES ITS NEIGHBOURS**: exactly when every page it touches
    does, whatever the pattern of failing flash calls and whatever programming
    does to a cell. -/
theorem contextStore_spares_iff (hl : UniformLayout cfg)
    (ctxType : ModemContextType) (offset : Nat) (buffer : Nat → UInt8)
    (size : Nat) (st : Storage)
    (hreal : privHalContextAddress ctxType offset
      < addrStoreAndForwardContextOffset)
    (hend : privHalContextAddress ctxType offset + size
      ≤ addrStoreAndForwardContextOffset) :
    ∃ st', smtcModemHalContextStore cfg fails ctxType offset buffer size st
        = some st'
      ∧ (NeighboursKept cfg (privHalContextAddress ctxType offset) size st st'
        ↔ ∀ q, privHalContextAddress ctxType offset / cfg.pageBufferSize ≤ q →
            q ≤ (privHalContextAddress ctxType offset + (size - 1))
              / cfg.pageBufferSize →
            PageSpared cfg fails (privHalContextAddress ctxType offset) size
              st q) := by
  rw [contextStore_below cfg fails hreal]
  generalize privHalContextAddress ctxType offset = real at *
  have hsize : real + size < 4294967296 :=
    Nat.lt_of_le_of_lt hend (by decide)
  obtain ⟨st', hrun, hcell⟩ :=
    flashReadModifyWrite_cell fails hl buffer hsize st
  refine ⟨st', hrun, ?_⟩
  constructor
  · intro hkept q hlo hhi
    rw [pageSpared_iff fails buffer]
    intro a ha hout hq
    have hsame := hkept a ha hout
    rw [hcell a, if_pos ⟨by omega, by omega⟩, hq] at hsame
    exact hsame
  · intro hspared a ha hout
    rw [hcell a]
    by_cases htouch : PageTouched cfg real size a
    · rw [if_pos htouch]
      exact (pageSpared_iff fails buffer st).mp
        (hspared (a / cfg.pageBufferSize) htouch.1 htouch.2) a ha hout rfl
    · rw [if_neg htouch]

/-- A one-byte store on a device whose flash calls all succeed spares its
    neighbours. -/
theorem contextStore_spares_fourPages :
    ∃ st', smtcModemHalContextStore fourPagePartition noFailure .lorawanStack 0
        (fun _ => 1) 1 (filledStorage 0) = some st'
      ∧ NeighboursKept fourPagePartition 0 1 (filledStorage 0) st' := by
  obtain ⟨st', hrun, hiff⟩ := contextStore_spares_iff noFailure
    fourPagePartition_uniform .lorawanStack 0 (fun _ => 1) 1
    (filledStorage 0) (by decide) (by decide)
  refine ⟨st', hrun, hiff.mpr ?_⟩
  intro q _ _
  exact Or.inr (Or.inl ⟨rfl, rfl⟩)

/-- **A FAILING WRITE ERASES THE NEIGHBOURS**: one byte stored for the LoRaWAN
    stack, the third flash call failing, and the key context at byte 300 goes
    from `0x00` to `0xFF`. -/
theorem failing_write_erases_key :
    ∃ st', smtcModemHalContextStore fourPagePartition (fun n => n == 2)
        .lorawanStack 0 (fun _ => 1) 1 (filledStorage 0) = some st'
      ∧ (filledStorage 0).partition fourPagePartition 300 = 0x00
      ∧ st'.partition fourPagePartition 300 = 0xFF
      ∧ ¬ NeighboursKept fourPagePartition 0 1 (filledStorage 0) st' := by
  refine ⟨_, rfl, rfl, rfl, ?_⟩
  intro hkept
  exact absurd (hkept 300 (by decide) (by decide)) (by decide)

end StorageFailure
