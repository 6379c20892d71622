/-! # 32-bit unsigned arithmetic on natural numbers

    The sources compute offsets, lengths and times in `uint32_t`.  The model
    keeps such values as natural numbers below `2 ^ 32` and writes the wrap out:
    `u32Add` and `u32Sub` are the machine operations, and the lemmas say when
    they are the operations of the natural numbers. -/

namespace WordArithmetic

/-- `a + b` in `uint32_t`. -/
def u32Add (a b : Nat) : Nat := (a + b) % 4294967296

/-- `a - b` in `uint32_t`: wraps when `b` exceeds `a`. -/
def u32Sub (a b : Nat) : Nat := (a + (4294967296 - b % 4294967296)) % 4294967296

/-- Without overflow the machine sum is the sum. -/
theorem u32Add_eq {a b : Nat} (h : a + b < 4294967296) : u32Add a b = a + b :=
  Nat.mod_eq_of_lt h

/-- Without underflow the machine difference is the difference. -/
theorem u32Sub_eq {a b : Nat} (hb : b ≤ a) (ha : a < 4294967296) :
    u32Sub a b = a - b := by
  rw [u32Sub]
  omega

/-- The machine difference undoes an addition, wrapped or not. -/
theorem u32Sub_add_left (b : Nat) {n : Nat} (h : n < 4294967296) :
    u32Sub (b + n) b = n := by
  rw [u32Sub]
  omega

end WordArithmetic
