/-! # Length-prefixed frames with an XOR checksum

    A frame is an identifier, the length of a payload, the payload and the XOR
    of all of these.  `Frame` carries the one thing that makes it encodable, a
    payload length that fits a byte, so `Frame.bytes` is total and injective.

    The second half reads frames out of a buffer: `firstBytes` lists a prefix of
    the buffer, `xorLoop` is the checksum loop, and `ofBuffer` is the frame the
    first two bytes announce.  `padded` is a buffer filled with `0xFF` before
    anything was received into it. -/

namespace XorFrame

/-- XOR of a list of bytes. -/
def xorSum (l : List UInt8) : UInt8 := l.foldl (· ^^^ ·) 0

@[simp] theorem xorSum_nil : xorSum [] = 0 := rfl

@[simp] theorem xorSum_concat (l : List UInt8) (b : UInt8) :
    xorSum (l ++ [b]) = xorSum l ^^^ b := by
  simp [xorSum, List.foldl_append]

/-- Identifier and payload of a frame, the payload short enough for its length
    byte. -/
structure Frame where
  id : UInt8
  payload : List UInt8
  payload_lt : payload.length < 256

/-- Everything but the checksum. -/
def Frame.body (f : Frame) : List UInt8 :=
  f.id :: UInt8.ofNat f.payload.length :: f.payload

/-- The frame on the wire. -/
def Frame.bytes (f : Frame) : List UInt8 := f.body ++ [xorSum f.body]

@[simp] theorem Frame.length_body (f : Frame) :
    f.body.length = f.payload.length + 2 := rfl

@[simp] theorem Frame.length_bytes (f : Frame) :
    f.bytes.length = f.payload.length + 3 := by
  simp [Frame.bytes]

/-- The length byte holds the length. -/
theorem Frame.toNat_length (f : Frame) :
    (UInt8.ofNat f.payload.length).toNat = f.payload.length :=
  UInt8.toNat_ofNat_of_lt' f.payload_lt

/-- A frame is determined by its body. -/
theorem Frame.eq_of_body {f g : Frame} (h : f.body = g.body) : f = g := by
  obtain ⟨fi, fp, fl⟩ := f
  obtain ⟨gi, gp, gl⟩ := g
  have hcons := List.cons.inj h
  have hid : fi = gi := hcons.1
  have hpay : fp = gp := (List.cons.inj hcons.2).2
  subst hid hpay
  rfl

/-! ## Frames in a buffer -/

/-- The first `n` bytes of a buffer. -/
def firstBytes (buf : Nat → UInt8) (n : Nat) : List UInt8 :=
  (List.range n).map buf

@[simp] theorem length_firstBytes (buf : Nat → UInt8) (n : Nat) :
    (firstBytes buf n).length = n := by
  simp [firstBytes]

theorem getElem?_firstBytes (buf : Nat → UInt8) {n i : Nat} (h : i < n) :
    (firstBytes buf n)[i]? = some (buf i) := by
  simp [firstBytes, h]

theorem firstBytes_succ (buf : Nat → UInt8) (n : Nat) :
    firstBytes buf (n + 1) = firstBytes buf n ++ [buf n] := by
  simp [firstBytes, List.range_succ]

/-- Two bytes and then the buffer from the third on. -/
theorem firstBytes_add_two (buf : Nat → UInt8) (n : Nat) :
    firstBytes buf (n + 2)
      = buf 0 :: buf 1 :: firstBytes (fun i => buf (2 + i)) n := by
  induction n with
  | zero => rfl
  | succ n ih =>
      rw [firstBytes_succ, ih, firstBytes_succ, Nat.add_comm n 2]
      rfl

/-- Buffers that agree on `n` bytes have the same first `n` bytes. -/
theorem firstBytes_congr {b1 b2 : Nat → UInt8} {n : Nat}
    (h : ∀ i, i < n → b1 i = b2 i) : firstBytes b1 n = firstBytes b2 n := by
  refine List.map_congr_left ?_
  intro i hi
  exact h i (List.mem_range.mp hi)

/-- The checksum loop: `n` bytes of the buffer XORed into `crc`. -/
def xorLoop (crc : UInt8) (buf : Nat → UInt8) : Nat → UInt8
  | 0 => crc
  | n + 1 => xorLoop crc buf n ^^^ buf n

/-- The loop adds the checksum of the bytes it visits to what it started from. -/
theorem xorLoop_eq (crc : UInt8) (buf : Nat → UInt8) (n : Nat) :
    xorLoop crc buf n = crc ^^^ xorSum (firstBytes buf n) := by
  induction n with
  | zero => simp [xorLoop, firstBytes]
  | succ n ih =>
      show xorLoop crc buf n ^^^ buf n = _
      rw [ih, firstBytes_succ, xorSum_concat, UInt8.xor_assoc]

/-- The frame that the first two bytes of a buffer announce. -/
def ofBuffer (buf : Nat → UInt8) : Frame where
  id := buf 0
  payload := firstBytes (fun i => buf (2 + i)) (buf 1).toNat
  payload_lt := by
    rw [length_firstBytes]
    exact (buf 1).toNat_lt

/-- Its body is the beginning of the buffer. -/
theorem ofBuffer_body (buf : Nat → UInt8) :
    (ofBuffer buf).body = firstBytes buf ((buf 1).toNat + 2) := by
  rw [firstBytes_add_two]
  show buf 0 :: UInt8.ofNat (firstBytes _ (buf 1).toNat).length :: _ = _
  rw [length_firstBytes, UInt8.ofNat_toNat]
  rfl

/-- The buffer starts with the frame it announces exactly when the byte after
    the payload is the checksum of the bytes before. -/
theorem ofBuffer_bytes_iff (buf : Nat → UInt8) :
    firstBytes buf ((buf 1).toNat + 3) = (ofBuffer buf).bytes
      ↔ xorLoop 0 buf ((buf 1).toNat + 2) = buf ((buf 1).toNat + 2) := by
  rw [firstBytes_succ, xorLoop_eq, UInt8.zero_xor, ← ofBuffer_body, Frame.bytes]
  constructor
  · intro h
    exact (List.cons.inj (List.append_cancel_left h)).1.symm
  · intro h
    rw [h]

/-- A buffer that starts with a frame announces it. -/
theorem ofBuffer_eq_of_prefix {buf : Nat → UInt8} {f : Frame}
    (h : firstBytes buf (f.payload.length + 3) = f.bytes) :
    ofBuffer buf = f ∧ (buf 1).toNat = f.payload.length := by
  have hbody : firstBytes buf (f.payload.length + 2) = f.body := by
    rw [firstBytes_succ] at h
    exact (List.append_inj h (by simp)).1
  rw [firstBytes_add_two] at hbody
  have hcons := List.cons.inj hbody
  have hlen : buf 1 = UInt8.ofNat f.payload.length := (List.cons.inj hcons.2).1
  have hn : (buf 1).toNat = f.payload.length := by
    rw [hlen, f.toNat_length]
  refine ⟨Frame.eq_of_body ?_, hn⟩
  rw [ofBuffer_body, hn, firstBytes_add_two]
  exact hbody

/-! ## Buffers filled with `0xFF` before reception -/

/-- What a buffer filled with `0xFF` holds after the bytes `bs` were received. -/
def padded (bs : List UInt8) : Nat → UInt8 := fun i => bs[i]?.getD 0xFF

theorem padded_of_lt {bs : List UInt8} {i : Nat} (h : i < bs.length) :
    padded bs i = bs[i] := by
  simp [padded, h]

theorem padded_of_le {bs : List UInt8} {i : Nat} (h : bs.length ≤ i) :
    padded bs i = 0xFF := by
  simp [padded, h]

/-- A prefix that ends within the received bytes. -/
theorem firstBytes_padded_take {bs : List UInt8} {n : Nat} (h : n ≤ bs.length) :
    firstBytes (padded bs) n = bs.take n := by
  refine List.ext_getElem (by simp [h]) ?_
  intro i h1 h2
  rw [length_firstBytes] at h1
  simp only [firstBytes, List.getElem_map, List.getElem_range,
    List.getElem_take]
  exact padded_of_lt (by omega)

/-- A prefix that goes past them. -/
theorem firstBytes_padded_append (bs : List UInt8) (k : Nat) :
    firstBytes (padded bs) (bs.length + k) = bs ++ List.replicate k 0xFF := by
  induction k with
  | zero =>
      rw [Nat.add_zero, firstBytes_padded_take (Nat.le_refl _),
        List.take_length]
      simp
  | succ k ih =>
      rw [← Nat.add_assoc, firstBytes_succ, ih, padded_of_le (by omega),
        List.append_assoc, List.replicate_succ']

end XorFrame
