import LiveConfig.Bytes

/-!
# Variable-length numbers

A number is written in groups of seven bits, the least significant group first; all bytes but the
last have their highest bit set. Ten bytes are the most a 64-bit number needs, so reading stops
there, and the tenth byte may hold one bit only.

`read?_write` says that reading undoes writing whatever follows.
-/

namespace LiveConfig.Wire.Varint

/-- The bytes of a number. -/
def write (n : Nat) : Bytes :=
  if n < 128 then [UInt8.ofNat n] else UInt8.ofNat (n % 128 + 128) :: write (n / 128)

/-- Reads a number of at most so many further bytes; only the last of ten is restricted. -/
def readWithin? : Nat → Bytes → Option (Nat × Bytes)
  | 0, _ => none
  | _, [] => none
  | more + 1, b :: rest =>
    if b < 128 then
      if more = 0 ∧ 2 ≤ b then none else some (b.toNat, rest)
    else
      (readWithin? more rest).map fun (high, rest) => (b.toNat - 128 + 128 * high, rest)

/-- Reads a number and gives the bytes that follow it. -/
def read? (bs : Bytes) : Option (Nat × Bytes) :=
  readWithin? 10 bs

/-- A number that fits the bytes left, with one bit in the last, is read back. -/
theorem readWithin?_write (more n : Nat) (rest : Bytes) (fits : n < Nat.pow 2 (7 * more + 1)) :
    readWithin? (more + 1) (write n ++ rest) = some (n, rest) := by
  induction more generalizing n with
  | zero =>
    have small : n < 2 := by simpa using fits
    have byte : n < 128 := by omega
    rw [write, if_pos byte]
    have low : UInt8.ofNat n < 128 := by
      rw [UInt8.lt_iff_toNat_lt, UInt8.toNat_ofNat']; simp; omega
    have bit : ¬ 2 ≤ UInt8.ofNat n := by
      rw [UInt8.le_iff_toNat_le, UInt8.toNat_ofNat']; simp; omega
    simp only [List.cons_append, List.nil_append, readWithin?, if_pos low, bit, and_false, if_false,
      UInt8.toNat_ofNat']
    rw [Nat.mod_eq_of_lt (by omega)]
  | succ more inductionHypothesis =>
    rw [write]
    split
    · next byte =>
      have low : UInt8.ofNat n < 128 := by
        rw [UInt8.lt_iff_toNat_lt, UInt8.toNat_ofNat']; simp; omega
      simp only [List.cons_append, List.nil_append, readWithin?, if_pos low, Nat.add_eq_zero_iff,
        Nat.one_ne_zero, and_false, false_and, if_false, UInt8.toNat_ofNat']
      rw [Nat.mod_eq_of_lt (by omega)]
    · next large =>
      have high : ¬ UInt8.ofNat (n % 128 + 128) < 128 := by
        rw [UInt8.lt_iff_toNat_lt, UInt8.toNat_ofNat']; simp; omega
      have tail : n / 128 < Nat.pow 2 (7 * more + 1) := by
        rw [Nat.div_lt_iff_lt_mul (by decide)]
        calc n < Nat.pow 2 (7 * more + 1 + 7) := fits
          _ = Nat.pow 2 (7 * more + 1) * 128 := Nat.pow_add 2 (7 * more + 1) 7
      simp only [List.cons_append, readWithin?, if_neg high, inductionHypothesis _ tail,
        Option.map_some, UInt8.toNat_ofNat']
      rw [Nat.mod_eq_of_lt (by omega)]
      congr 2
      omega

/-- Every 64-bit number is read back, whatever follows it. -/
theorem read?_write (n : Nat) (rest : Bytes) (fits : n < UInt64.size) :
    read? (write n ++ rest) = some (n, rest) :=
  readWithin?_write 9 n rest fits

end LiveConfig.Wire.Varint
