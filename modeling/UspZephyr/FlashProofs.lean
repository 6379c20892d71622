import UspZephyr.ByteMemoryProofs

/-! # A flash partition whose calls may fail

    The flash map of the operating system, as far as a storage layer relies on
    it: a partition (`FlashArea`) of a byte-addressed device, read, erase and
    write calls at partition offsets, and a layout of erase pages.  Any call may
    fail; the `n`-th call made on the device fails when `fails n` does, and a
    failing call leaves the device and the output buffer as they were.  The
    return codes carry no more than that, and are left out.

    What programming does to a cell is a parameter with its laws
    (`CellProgram`).  The one computation the layer above needs is `rewritten`:
    what a read, an erase and a write of the page around it leave in a cell,
    for each of the eight patterns of failure. -/

namespace Flash

open ByteMemory

/-- How programming acts on one cell: `program old new`.  An erased cell takes
    the byte, and a byte the cell already holds changes nothing. -/
structure CellProgram where
  program : UInt8 → UInt8 → UInt8
  program_erased : ∀ b, program 0xFF b = b
  program_same : ∀ b, program b b = b

private theorem blank_eq : (0xFF : UInt8) = -1 := by decide

/-- NOR flash: programming can only clear bits. -/
def nor : CellProgram where
  program := fun old new => old &&& new
  program_erased := by
    intro b
    show 0xFF &&& b = b
    rw [blank_eq]
    exact UInt8.neg_one_and
  program_same := by
    intro b
    exact UInt8.and_self

/-- A partition of the device (`struct flash_area`). -/
structure FlashArea where
  faOff : Nat
  faSize : Nat

/-- One erase page of the device (`struct flash_pages_info`). -/
structure FlashPagesInfo where
  startOffset : Nat
  size : Nat

/-- The device: its cells at device addresses, and the calls made so far. -/
structure FlashState where
  cells : Nat → UInt8
  calls : Nat

variable (area : FlashArea) (cell : CellProgram) (fails : Nat → Bool)

/-- `flash_area_read` of `len` bytes at `off` into `buffer + pos`. -/
def flashAreaRead (s : FlashState) (off : Nat) (buffer : Nat → UInt8)
    (pos len : Nat) : (Nat → UInt8) × FlashState :=
  (if fails s.calls then buffer
    else splice buffer pos len (fun i => s.cells (area.faOff + off + i)),
   { s with calls := s.calls + 1 })

/-- `flash_area_erase` of `len` bytes at `off`. -/
def flashAreaErase (s : FlashState) (off len : Nat) : FlashState where
  cells :=
    if fails s.calls then s.cells
    else splice s.cells (area.faOff + off) len (fun _ => 0xFF)
  calls := s.calls + 1

/-- `flash_area_write` of the first `len` bytes of `src` at `off`. -/
def flashAreaWrite (s : FlashState) (off : Nat) (src : Nat → UInt8)
    (len : Nat) : FlashState where
  cells :=
    if fails s.calls then s.cells
    else splice s.cells (area.faOff + off) len
      (fun i => cell.program (s.cells (area.faOff + off + i)) (src i))
  calls := s.calls + 1

/-- A device none of whose calls fails. -/
def noFailure : Nat → Bool := fun _ => false

/-- What a read puts at position `pos + i` of the buffer. -/
theorem flashAreaRead_byte (s : FlashState) (off : Nat)
    (buffer : Nat → UInt8) (pos : Nat) {len i : Nat} (h : i < len) :
    (flashAreaRead area fails s off buffer pos len).1 (pos + i)
      = if fails s.calls then buffer (pos + i)
        else s.cells (area.faOff + off + i) := by
  show (if fails s.calls then buffer
    else splice buffer pos len (fun i => s.cells (area.faOff + off + i)))
      (pos + i) = _
  by_cases hf : fails s.calls = true
  · rw [if_pos hf, if_pos hf]
  · rw [if_neg hf, if_neg hf, splice_inside (by omega) (by omega)]
    rw [Nat.add_sub_cancel_left]

/-- A read fills its own part of the buffer only. -/
theorem flashAreaRead_outside (s : FlashState) (off : Nat)
    (buffer : Nat → UInt8) {pos len i : Nat} (h : i < pos ∨ pos + len ≤ i) :
    (flashAreaRead area fails s off buffer pos len).1 i = buffer i := by
  show (if fails s.calls then buffer
    else splice buffer pos len (fun i => s.cells (area.faOff + off + i))) i = _
  by_cases hf : fails s.calls = true
  · rw [if_pos hf]
  · rw [if_neg hf, splice_outside h]

/-- An erase that succeeds fills its range. -/
theorem flashAreaErase_ok (s : FlashState) (off len : Nat) :
    (flashAreaErase area noFailure s off len).cells
      = splice s.cells (area.faOff + off) len (fun _ => 0xFF) := by
  show (if noFailure s.calls then s.cells else _) = _
  exact if_neg Bool.false_ne_true

/-- An erase acts on its own range only. -/
theorem flashAreaErase_outside (s : FlashState) {off len x : Nat}
    (h : x < area.faOff + off ∨ area.faOff + off + len ≤ x) :
    (flashAreaErase area fails s off len).cells x = s.cells x := by
  show (if fails s.calls then s.cells
    else splice s.cells (area.faOff + off) len (fun _ => 0xFF)) x = s.cells x
  by_cases hf : fails s.calls = true
  · rw [if_pos hf]
  · rw [if_neg hf, splice_outside h]

/-- What an erase leaves in a cell of its range. -/
theorem flashAreaErase_inside (s : FlashState) {off len i : Nat} (h : i < len) :
    (flashAreaErase area fails s off len).cells (area.faOff + off + i)
      = if fails s.calls then s.cells (area.faOff + off + i) else 0xFF := by
  show (if fails s.calls then s.cells
    else splice s.cells (area.faOff + off) len (fun _ => 0xFF))
      (area.faOff + off + i) = _
  by_cases hf : fails s.calls = true
  · rw [if_pos hf, if_pos hf]
  · rw [if_neg hf, if_neg hf, splice_inside (by omega) (by omega)]

/-- A write acts on its own range only. -/
theorem flashAreaWrite_outside (s : FlashState) {off : Nat}
    (src : Nat → UInt8) {len x : Nat}
    (h : x < area.faOff + off ∨ area.faOff + off + len ≤ x) :
    (flashAreaWrite area cell fails s off src len).cells x = s.cells x := by
  show (if fails s.calls then s.cells
    else splice s.cells (area.faOff + off) len
      (fun i => cell.program (s.cells (area.faOff + off + i)) (src i))) x
    = s.cells x
  by_cases hf : fails s.calls = true
  · rw [if_pos hf]
  · rw [if_neg hf, splice_outside h]

/-- What a write leaves in a cell of its range. -/
theorem flashAreaWrite_inside (s : FlashState) {off : Nat}
    (src : Nat → UInt8) {len i : Nat} (h : i < len) :
    (flashAreaWrite area cell fails s off src len).cells (area.faOff + off + i)
      = if fails s.calls then s.cells (area.faOff + off + i)
        else cell.program (s.cells (area.faOff + off + i)) (src i) := by
  show (if fails s.calls then s.cells
    else splice s.cells (area.faOff + off) len
      (fun i => cell.program (s.cells (area.faOff + off + i)) (src i)))
      (area.faOff + off + i) = _
  by_cases hf : fails s.calls = true
  · rw [if_pos hf, if_pos hf]
  · rw [if_neg hf, if_neg hf, splice_inside (by omega) (by omega)]
    rw [Nat.add_sub_cancel_left]

/-! ## One cell across a read, an erase and a write of its page -/

/-- What is left in a cell holding `v` after its page was read, the cell patched
    with `patch` in the buffer (or not), the page erased and the buffer written
    back.  `r`, `e` and `w` say which of the three calls fails; a buffer whose
    read failed holds `0xFF`. -/
def rewritten (r e w : Bool) (patch : Option UInt8) (v : UInt8) : UInt8 :=
  let old := if e then v else 0xFF
  if w then old else cell.program old (patch.getD (if r then 0xFF else v))

/-- When no call fails, the cell holds its patch, or what it held. -/
theorem rewritten_ok (patch : Option UInt8) (v : UInt8) :
    rewritten cell false false false patch v = patch.getD v := by
  show cell.program 0xFF (patch.getD v) = patch.getD v
  exact cell.program_erased _

/-- **WHEN AN UNPATCHED CELL SURVIVES**: its page was not erased, and was read
    before it was written or not written at all; or it was both read and written
    back; or the page was not erased and programming `0xFF` keeps the cell; or the
    cell was blank. -/
theorem rewritten_none_eq_iff (r e w : Bool) (v : UInt8) :
    rewritten cell r e w none v = v
      ↔ (e = true ∧ (r = false ∨ w = true)) ∨ (r = false ∧ w = false)
        ∨ (e = true ∧ cell.program v 0xFF = v) ∨ v = 0xFF := by
  have hblank : cell.program 0xFF 0xFF = 0xFF := cell.program_same 0xFF
  cases e with
  | true =>
      cases w with
      | true => simp [rewritten]
      | false =>
          cases r with
          | true =>
              -- the cell keeps what it had under the `0xFF` of the buffer
              simp only [rewritten, ↓reduceIte, Bool.false_eq_true,
                Option.getD_none, reduceCtorEq, or_self, and_false, false_and,
                true_and, false_or]
              constructor
              · exact Or.inl
              · rintro (hkeeps | rfl)
                · exact hkeeps
                · exact hblank
          | false => simp [rewritten, cell.program_same]
  | false =>
      cases w with
      | true =>
          simp only [rewritten, Bool.false_eq_true, ↓reduceIte, false_or,
            false_and, and_false, reduceCtorEq]
          exact eq_comm
      | false =>
          cases r with
          | true =>
              simp only [rewritten, Bool.false_eq_true, ↓reduceIte,
                Option.getD_none, hblank, false_or, false_and, reduceCtorEq]
              exact eq_comm
          | false => simp [rewritten, cell.program_erased]

end Flash
