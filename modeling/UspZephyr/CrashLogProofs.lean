import Mathlib.Data.List.GetD
import UspZephyr.ByteMemoryProofs

/-! # The crash log a panic leaves

    `smtc_modem_hal_on_panic` prints the prefix `<func>:<line> ` and the message
    into a buffer of 255 bytes and stores it in RAM that a reset keeps.  What
    `snprintf` and `vsnprintf` return, the lengths the texts would have had, is
    added up in a `uint8_t`, which is the offset of the message, what is left of
    the buffer, and the length stored.

    Every access is checked against the block it is made to (`Block`); none
    leaves it (`onPanic_eq`).  `leavesFaithfulLog_iff` says which panics leave
    the beginning of their text. -/

namespace CrashLog

open ByteMemory

/-! ## Blocks of memory -/

/-- A block of `size` bytes. -/
structure Block (size : Nat) where
  cell : Nat → UInt8

section

variable {size : Nat}

/-- Store `data` from byte `off` on, inside the block. -/
def Block.store (b : Block size) (off : Nat) (data : List UInt8) :
    Option (Block size) :=
  if off + data.length ≤ size then
    some ⟨splice b.cell off data.length (data.getD · 0)⟩
  else none

/-- The first `n` bytes, inside the block. -/
def Block.load (b : Block size) (n : Nat) : Option (List UInt8) :=
  if n ≤ size then some ((List.range n).map b.cell) else none

/-- The bytes before the first NUL, which has to come inside the block. -/
def Block.string (b : Block size) : Option (List UInt8) :=
  let bytes := (List.range size).map b.cell
  if 0 ∈ bytes then some (bytes.takeWhile (· != 0)) else none

/-- `snprintf` and `vsnprintf` to byte `off` with a size of `n`: at most `n - 1`
    characters and a NUL, and the length of the whole text. -/
def snprintf (b : Block size) (off n : Nat) (text : List UInt8) :
    Option (Block size × Nat) :=
  if n = 0 then some (b, text.length)
  else (b.store off (text.take (n - 1) ++ [0])).map fun b' => (b', text.length)

end

/-! ## The log -/

/-- The RAM a reset keeps: `crashlog_buff_noinit`, `crashlog_length_noinit`,
    `crashlog_available_noinit`. -/
structure Noinit (crashLogSize : Nat) where
  crashlogBuff : Block crashLogSize
  crashlogLength : UInt8
  crashlogAvailable : Bool

section

variable {crashLogSize : Nat}

/-- `smtc_modem_hal_crashlog_store`. -/
def crashlogStore (s : Noinit crashLogSize) (crashString : Block 255)
    (crashStringLength : UInt8) : Option (Noinit crashLogSize) := do
  let length := UInt8.ofNat (min crashStringLength.toNat crashLogSize)
  let data ← crashString.load length.toNat
  let buff ← s.crashlogBuff.store 0 data
  some ⟨buff, length, true⟩

/-- `smtc_modem_hal_crashlog_restore`. -/
def crashlogRestore (s : Noinit crashLogSize) : Option (List UInt8) :=
  s.crashlogBuff.load
    (if s.crashlogLength.toNat > crashLogSize then UInt8.ofNat crashLogSize
      else s.crashlogLength).toNat

/-- `smtc_modem_hal_crashlog_get_status`; the mask `temp` is always 1. -/
def crashlogGetStatus (s : Noinit crashLogSize) : Bool :=
  s.crashlogAvailable && true

/-- The characters of a number printed with `%u`. -/
def unsignedText (n : Nat) : List UInt8 :=
  (Nat.toDigits 10 n).map fun c => UInt8.ofNat c.toNat

/-- The text of `"%s:%u "`. -/
def prefixText (func : List UInt8) (line : UInt32) : List UInt8 :=
  func ++ [58] ++ unsignedText line.toNat ++ [32]

/-- `smtc_modem_hal_on_panic` on a buffer that is not initialised; `message` is
    the text of `fmt` and its arguments.  The reset behind it keeps the log. -/
def smtcModemHalOnPanic (uninit : Block 255) (s : Noinit crashLogSize)
    (func : List UInt8) (line : UInt32) (message : List UInt8) :
    Option (Noinit crashLogSize) := do
  let (buffer, ret) ← snprintf uninit 0 255 (prefixText func line)
  let length := UInt8.ofNat ret
  let (buffer, ret) ← snprintf buffer length.toNat (255 - length.toNat) message
  let length := length + UInt8.ofNat ret
  -- LOG_ERR reads the buffer up to its NUL
  let _ ← buffer.string
  crashlogStore s buffer length

end

/-! ## What a panic leaves -/

/-- The text a panic is about. -/
def panicText (func : List UInt8) (line : UInt32) (message : List UInt8) :
    List UInt8 :=
  prefixText func line ++ message

/-- Whatever the buffer and the log held before, the log is available behind
    the panic and restored as the beginning of the text, and no access leaves
    its block. -/
def LeavesFaithfulLog (crashLogSize : Nat) (func : List UInt8) (line : UInt32)
    (message : List UInt8) : Prop :=
  ∀ (uninit : Block 255) (s : Noinit crashLogSize),
    ∃ s', smtcModemHalOnPanic uninit s func line message = some s'
      ∧ crashlogRestore s' = some ((panicText func line message).take
        (min (min (panicText func line message).length 254) crashLogSize))
      ∧ crashlogGetStatus s' = true

/-- The stored length is right: the text fits, or its length reduced to 8 bits
    still covers what the log can hold. -/
def LengthKept (crashLogSize length : Nat) : Prop :=
  length ≤ 254 ∨ length % 256 = 254
    ∨ (crashLogSize ≤ 254 ∧ crashLogSize ≤ length % 256)

/-- The prefix is not overwritten: its length is kept in 8 bits, or the message
    happens to say the same where it is written over the prefix. -/
def PrefixKept (crashLogSize prefixLength : Nat) (text message : List UInt8) :
    Prop :=
  prefixLength ≤ 255 ∨ ∀ i, prefixLength % 256 ≤ i → i < min 254 crashLogSize →
    message[i - prefixLength % 256]? = text[i]?

/-! ## Accesses inside a block -/

section

variable {size : Nat}

theorem Block.store_eq {b : Block size} {off : Nat} {data : List UInt8}
    (h : off + data.length ≤ size) :
    b.store off data = some ⟨splice b.cell off data.length (data.getD · 0)⟩ :=
  if_pos h

theorem Block.load_eq {b : Block size} {n : Nat} (h : n ≤ size) :
    b.load n = some ((List.range n).map b.cell) :=
  if_pos h

/-- The cells after a print of size `n` to byte `off`. -/
def printed (cell : Nat → UInt8) (off n : Nat) (text : List UInt8) :
    Nat → UInt8 :=
  if n = 0 then cell
  else splice cell off ((text.take (n - 1)).length + 1)
    ((text.take (n - 1) ++ [0]).getD · 0)

/-- A print that is given no more than there is stays inside. -/
theorem snprintf_eq {b : Block size} {off n : Nat} {text : List UInt8}
    (h : off + n ≤ size) :
    snprintf b off n text = some (⟨printed b.cell off n text⟩, text.length) := by
  rw [snprintf, printed]
  by_cases hn : n = 0
  · rw [if_pos hn, if_pos hn]
  · rw [if_neg hn, if_neg hn, Block.store_eq]
    · rw [Option.map_some, List.length_append, List.length_singleton]
    · rw [List.length_append, List.length_take, List.length_singleton]
      omega

theorem printed_outside {cell : Nat → UInt8} {off n i : Nat}
    {text : List UInt8} (h : i < off ∨ off + n ≤ i) :
    printed cell off n text i = cell i := by
  rw [printed]
  split
  · rfl
  · have := List.length_take_le (n - 1) text
    exact splice_outside (by omega)

/-- The characters that fit. -/
theorem printed_text (cell : Nat → UInt8) (off n : Nat) {i : Nat}
    {text : List UInt8} (hi : i + 1 < n) (htext : i < text.length) :
    some (printed cell off n text (off + i)) = text[i]? := by
  have htake : i < (text.take (n - 1)).length := by
    rw [List.length_take]
    omega
  rw [printed, if_neg (by omega), splice_inside (by omega) (by omega),
    Nat.add_sub_cancel_left, List.getD_append _ _ _ _ htake,
    List.getD_eq_getElem?_getD, List.getElem?_eq_getElem htake,
    Option.getD_some, List.getElem_take, List.getElem?_eq_getElem htext]

/-- There is a NUL inside what is printed to, if anything is. -/
theorem printed_nul (cell : Nat → UInt8) (off : Nat) (text : List UInt8)
    {n : Nat} (hn : n ≠ 0) : ∃ i, off ≤ i ∧ i < off + n ∧ printed cell off n text i = 0 := by
  have := List.length_take_le (n - 1) text
  refine ⟨off + (text.take (n - 1)).length, by omega, by omega, ?_⟩
  rw [printed, if_neg hn, splice_inside (by omega) (by omega),
    Nat.add_sub_cancel_left, List.getD_append_right _ _ _ _ (Nat.le_refl _),
    Nat.sub_self]
  rfl

/-- A NUL inside the block ends the string. -/
theorem Block.string_isSome {b : Block size} {i : Nat} (hi : i < size)
    (hnul : b.cell i = 0) : ∃ str, b.string = some str :=
  ⟨_, if_pos (List.mem_map.mpr ⟨i, List.mem_range.mpr hi, hnul⟩)⟩

end

/-! ## The panic -/

section

variable {crashLogSize : Nat} {uninit : Block 255} {s : Noinit crashLogSize}
  {func message : List UInt8} {line : UInt32}

/-- The cells of the buffer behind both prints. -/
def panicCell (uninit : Block 255) (head message : List UInt8) : Nat → UInt8 :=
  printed (printed uninit.cell 0 255 head) (head.length % 256)
    (255 - head.length % 256) message

/-- Both prints leave a NUL in the buffer. -/
theorem panicCell_nul (uninit : Block 255) (head message : List UInt8) :
    ∃ i, i < 255 ∧ panicCell uninit head message i = 0 := by
  by_cases hfull : head.length % 256 = 255
  · obtain ⟨i, -, hi, hnul⟩ :=
      printed_nul uninit.cell 0 head (show 255 ≠ 0 by decide)
    refine ⟨i, by omega, ?_⟩
    rw [panicCell, hfull, printed_outside (by omega)]
    exact hnul
  · obtain ⟨i, -, hi, hnul⟩ := printed_nul (printed uninit.cell 0 255 head)
      (head.length % 256) message (show 255 - head.length % 256 ≠ 0 by omega)
    exact ⟨i, by omega, hnul⟩

/-- The text itself up to where the message is printed. -/
theorem panicCell_prefix (uninit : Block 255) {head message : List UInt8}
    {i : Nat} (hi : i < 254) (hoff : i < head.length % 256) :
    some (panicCell uninit head message i) = (head ++ message)[i]? := by
  have hhead : i < head.length := by
    have := Nat.mod_le head.length 256
    omega
  have hprinted := printed_text uninit.cell 0 255 (by omega) hhead
  rw [Nat.zero_add] at hprinted
  rw [panicCell, printed_outside (Or.inl hoff), hprinted,
    List.getElem?_append_left hhead]

/-- The message from there on. -/
theorem panicCell_message (uninit : Block 255) {head message : List UInt8}
    {i : Nat} (hi : i < 254) (hoff : head.length % 256 ≤ i)
    (hmessage : i - head.length % 256 < message.length) :
    some (panicCell uninit head message i)
      = message[i - head.length % 256]? := by
  have hprinted := printed_text (printed uninit.cell 0 255 head)
    (head.length % 256) (255 - head.length % 256) (by omega) hmessage
  rwa [Nat.add_sub_cancel' hoff] at hprinted

/-- What is stored of a buffer is what is restored. -/
theorem crashlogStore_restore (b : Block 255) (length : UInt8) :
    ∃ s', crashlogStore s b length = some s'
      ∧ crashlogRestore s' = some ((List.range
          (min length.toNat crashLogSize)).map b.cell)
      ∧ crashlogGetStatus s' = true := by
  have hlength := length.toNat_lt
  have hstored : (UInt8.ofNat (min length.toNat crashLogSize)).toNat
      = min length.toNat crashLogSize := by
    rw [UInt8.toNat_ofNat']
    omega
  have hle : min length.toNat crashLogSize ≤ crashLogSize := Nat.min_le_right _ _
  have hmem : ((List.range (min length.toNat crashLogSize)).map b.cell).length
      = min length.toNat crashLogSize := by
    rw [List.length_map, List.length_range]
  refine ⟨⟨⟨splice s.crashlogBuff.cell 0 (min length.toNat crashLogSize)
    (((List.range (min length.toNat crashLogSize)).map b.cell).getD · 0)⟩,
    UInt8.ofNat (min length.toNat crashLogSize), true⟩, ?_, ?_, rfl⟩
  · rw [crashlogStore]
    simp only [hstored]
    rw [Block.load_eq (by omega), Option.bind_eq_bind, Option.bind_some,
      Block.store_eq (by omega), hmem]
    rfl
  · rw [crashlogRestore, if_neg (by simp only [hstored]; omega)]
    simp only [hstored]
    rw [Block.load_eq hle]
    refine congrArg some (List.map_congr_left ?_)
    intro i hi
    have hi := List.mem_range.mp hi
    dsimp only
    rw [splice_inside (Nat.zero_le i) (by omega), Nat.sub_zero,
      List.getD_eq_getElem _ _ (by omega), List.getElem_map, List.getElem_range]

/-- No access of a panic leaves its block, and this is what it leaves. -/
theorem onPanic_eq (uninit : Block 255) (s : Noinit crashLogSize)
    (func : List UInt8) (line : UInt32) (message : List UInt8) :
    ∃ s', smtcModemHalOnPanic uninit s func line message = some s'
      ∧ crashlogRestore s' = some ((List.range
          (min ((panicText func line message).length % 256) crashLogSize)).map
            (panicCell uninit (prefixText func line) message))
      ∧ crashlogGetStatus s' = true := by
  obtain ⟨i, hi, hnul⟩ := panicCell_nul uninit (prefixText func line) message
  obtain ⟨str, hstr⟩ := Block.string_isSome
    (b := (⟨panicCell uninit (prefixText func line) message⟩ : Block 255)) hi hnul
  have hlength : (UInt8.ofNat (prefixText func line).length
      + UInt8.ofNat message.length).toNat
        = (panicText func line message).length % 256 := by
    rw [UInt8.toNat_add, UInt8.toNat_ofNat', UInt8.toNat_ofNat', panicText,
      List.length_append]
    omega
  obtain ⟨s', hstore, hrestore, hstatus⟩ := crashlogStore_restore (s := s)
    ⟨panicCell uninit (prefixText func line) message⟩
    (UInt8.ofNat (prefixText func line).length + UInt8.ofNat message.length)
  refine ⟨s', ?_, ?_, hstatus⟩
  · rw [smtcModemHalOnPanic, snprintf_eq (by decide)]
    simp only [Option.bind_eq_bind, Option.bind_some, UInt8.toNat_ofNat']
    rw [snprintf_eq (by omega)]
    show (Block.string ⟨panicCell uninit (prefixText func line) message⟩).bind _ = _
    rw [hstr]
    exact hstore
  · rw [hrestore, hlength]

/-- The first cells are a beginning of the text exactly if they are as many and
    each is its character. -/
theorem map_range_eq_take_iff {cell : Nat → UInt8} {text : List UInt8}
    {k n : Nat} (hn : n ≤ text.length) :
    (List.range k).map cell = text.take n
      ↔ k = n ∧ ∀ i, i < n → some (cell i) = text[i]? := by
  constructor
  · intro h
    have hk : k = n := by
      have := congrArg List.length h
      rwa [List.length_map, List.length_range, List.length_take,
        Nat.min_eq_left hn] at this
    refine ⟨hk, ?_⟩
    intro i hi
    have hcell := congrArg (fun l => l[i]?) h
    simp only [List.getElem?_map, List.getElem?_range (hk ▸ hi),
      Option.map_some, List.getElem?_take_of_lt hi] at hcell
    exact hcell
  · rintro ⟨rfl, h⟩
    refine List.ext_getElem? ?_
    intro i
    rcases Nat.lt_or_ge i k with hi | hi
    · rw [List.getElem?_map, List.getElem?_range hi, Option.map_some,
        List.getElem?_take_of_lt hi]
      exact h i hi
    · rw [List.getElem?_eq_none (by simpa using hi),
        List.getElem?_eq_none (Nat.le_trans (List.length_take_le k text) hi)]

/-- When the stored length is that of the beginning asked for. -/
theorem lengthKept_iff (crashLogSize length : Nat) :
    min (length % 256) crashLogSize = min (min length 254) crashLogSize
      ↔ LengthKept crashLogSize length := by
  rw [LengthKept]
  omega

/-- With the length kept, the cells are those of the text exactly if the prefix
    is kept. -/
theorem prefixKept_iff (uninit : Block 255) {crashLogSize : Nat}
    {head message : List UInt8}
    (hlength : LengthKept crashLogSize (head ++ message).length) :
    (∀ i, i < min (min (head ++ message).length 254) crashLogSize →
        some (panicCell uninit head message i) = (head ++ message)[i]?)
      ↔ PrefixKept crashLogSize head.length (head ++ message) message := by
  have hsum : (head ++ message).length = head.length + message.length :=
    List.length_append
  rw [LengthKept, hsum] at hlength
  constructor
  · intro h
    rcases Nat.lt_or_ge 255 head.length with hlong | hshort
    · refine Or.inr ?_
      intro i hoff hi
      rw [← h i (by omega)]
      exact (panicCell_message uninit (by omega) hoff (by omega)).symm
    · exact Or.inl hshort
  · intro h i hi
    rcases Nat.lt_or_ge i (head.length % 256) with hoff | hoff
    · exact panicCell_prefix uninit (by omega) hoff
    · rcases h with hshort | hsame
      · have hmod : head.length % 256 = head.length := by omega
        rw [panicCell_message uninit (by omega) hoff (by omega), hmod,
          List.getElem?_append_right (by omega)]
      · rcases Nat.lt_or_ge 255 head.length with hlong | hshort
        · rw [panicCell_message uninit (by omega) hoff (by omega)]
          exact hsame i hoff (by omega)
        · have hmod : head.length % 256 = head.length := by omega
          rw [panicCell_message uninit (by omega) hoff (by omega), hmod,
            List.getElem?_append_right (by omega)]

end

/-- **WHICH PANICS LEAVE THEIR TEXT**: those whose length survives the 8 bits
    it is stored in and whose message does not overwrite the prefix. -/
theorem leavesFaithfulLog_iff (crashLogSize : Nat) (func : List UInt8)
    (line : UInt32) (message : List UInt8) :
    LeavesFaithfulLog crashLogSize func line message
      ↔ LengthKept crashLogSize (panicText func line message).length
        ∧ PrefixKept crashLogSize (prefixText func line).length
          (panicText func line message) message := by
  have hmin : min (min (panicText func line message).length 254) crashLogSize
      ≤ (panicText func line message).length := by omega
  constructor
  · intro h
    obtain ⟨s', hpanic, hrestore, -⟩ := h ⟨fun _ => 0⟩ ⟨⟨fun _ => 0⟩, 0, false⟩
    obtain ⟨s'', hpanic', hrestore', -⟩ := onPanic_eq ⟨fun _ => 0⟩
      (⟨⟨fun _ => 0⟩, 0, false⟩ : Noinit crashLogSize) func line message
    obtain rfl := Option.some.inj (hpanic.symm.trans hpanic')
    obtain ⟨hlength, htext⟩ := (map_range_eq_take_iff hmin).mp
      (Option.some.inj (hrestore'.symm.trans hrestore))
    have hlength := (lengthKept_iff _ _).mp hlength
    exact ⟨hlength, (prefixKept_iff _ hlength).mp htext⟩
  · rintro ⟨hlength, hprefix⟩ uninit s
    obtain ⟨s', hpanic, hrestore, hstatus⟩ :=
      onPanic_eq uninit s func line message
    refine ⟨s', hpanic, hrestore.trans (congrArg some ?_), hstatus⟩
    exact (map_range_eq_take_iff hmin).mpr ⟨(lengthKept_iff _ _).mpr hlength,
      (prefixKept_iff uninit hlength).mpr hprefix⟩

/-- **A LONG MESSAGE IS LOST**: the text `f:1 ` with a message of 252 characters
    has 256 of them, and the log restored is empty. -/
theorem long_message_lost :
    (panicText [102] 1 (List.replicate 252 120)).length = 256
      ∧ (∀ uninit (s : Noinit 242), ∃ s',
        smtcModemHalOnPanic uninit s [102] 1 (List.replicate 252 120) = some s'
          ∧ crashlogRestore s' = some [])
      ∧ ¬ LeavesFaithfulLog 242 [102] 1 (List.replicate 252 120) := by
  have hlength : (panicText [102] 1 (List.replicate 252 120)).length = 256 := by
    rw [panicText, List.length_append, List.length_replicate]
    decide
  have hempty : ∀ uninit (s : Noinit 242), ∃ s',
      smtcModemHalOnPanic uninit s [102] 1 (List.replicate 252 120) = some s'
        ∧ crashlogRestore s' = some [] := by
    intro uninit s
    obtain ⟨s', hpanic, hrestore, -⟩ :=
      onPanic_eq uninit s [102] 1 (List.replicate 252 120)
    rw [hlength] at hrestore
    exact ⟨s', hpanic, hrestore⟩
  refine ⟨hlength, hempty, ?_⟩
  intro h
  obtain ⟨s', hpanic, hrestore, -⟩ := h ⟨fun _ => 0⟩ ⟨⟨fun _ => 0⟩, 0, false⟩
  obtain ⟨s'', hpanic', hrestore'⟩ := hempty ⟨fun _ => 0⟩
    ⟨⟨fun _ => 0⟩, 0, false⟩
  obtain rfl := Option.some.inj (hpanic.symm.trans hpanic')
  have htaken := congrArg List.length
    (Option.some.inj (hrestore'.symm.trans hrestore))
  rw [List.length_take, hlength] at htaken
  exact absurd htaken (by decide)

end CrashLog
