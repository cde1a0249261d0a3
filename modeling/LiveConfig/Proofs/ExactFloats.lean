import Mathlib

/-!
# Floats that are exact

A float of double precision is a mantissa of 53 bits times a power of two. Where the exact result of
a multiplication or a division is again such a number, nothing is lost by rounding: the result is
held by the float that the operation gives. So long as results can be represented, floats are
therefore compared as the numbers that they hold.

Only numbers that are not negative are treated, and no subnormal ones. Infinities, the sign of a
zero and results that are rounded play no part.
-/

namespace LiveConfig.ExactFloats

open Float.Model Float.Model.UnpackedFloat

/-- The least and the greatest exponent of a mantissa of 53 bits. -/
def InRange (e : Int) : Prop :=
  -1074 ≤ e ∧ e ≤ 971

/-- A number is zero or a mantissa of 53 bits times a power of two. -/
inductive Representable : ℚ → Prop
  | zero : Representable 0
  | normal (k : Nat) (e : Int) (bits : k.log2 = 52) (range : InRange e) :
      Representable (k * (2 : ℚ) ^ e)

/-- A float holds a number. -/
inductive Holds (x : Float) : ℚ → Prop
  | zero (unpacked : x.toModel.unpack = .zero .positive) : Holds x 0
  | normal (k : Nat) (e : Int) (positive : 0 < k) (bits : k.log2 = 52) (range : InRange e)
      (unpacked : x.toModel.unpack = .finite .positive k e positive) : Holds x (k * (2 : ℚ) ^ e)

/-- A mantissa of 53 bits lies between two powers of two. -/
theorem bits_iff (k : Nat) (positive : 0 < k) :
    k.log2 = 52 ↔ 4503599627370496 ≤ k ∧ k < 9007199254740992 :=
  Nat.log2_eq_iff positive.ne'

/-- A mantissa of 53 bits is positive. -/
theorem positive_of_bits {k : Nat} (bits : k.log2 = 52) : 0 < k := by
  rcases Nat.eq_zero_or_pos k with rfl | positive
  · simp at bits
  · exact positive

/-- Zeros behind a number make it longer by as many bits. -/
theorem log2_scaled (k j : Nat) (positive : 0 < k) : (k * 2 ^ j).log2 = k.log2 + j := by
  induction j with
  | zero => simp
  | succ j inductionHypothesis =>
    have scaled : k * 2 ^ j ≠ 0 := (Nat.mul_pos positive (Nat.two_pow_pos j)).ne'
    rw [show k * 2 ^ (j + 1) = 2 * (k * 2 ^ j) by ring, Nat.log2_two_mul scaled,
      inductionHypothesis, Nat.add_assoc]

/-- A shorter number gets 53 bits by zeros behind it. -/
theorem log2_widened (n : Nat) (positive : 0 < n) (short : n < 2 ^ 53) :
    (n * 2 ^ (52 - n.log2)).log2 = 52 := by
  have length : n.log2 < 53 := (Nat.log2_lt positive.ne').mpr short
  rw [log2_scaled n _ positive]
  omega

/-- Zeros behind a mantissa are made up for by its exponent. -/
theorem value_widened (n j : Nat) (e : Int) :
    ((n * 2 ^ j : Nat) : ℚ) * (2 : ℚ) ^ (e - j) = n * (2 : ℚ) ^ e := by
  push_cast
  rw [mul_assoc, ← zpow_natCast, ← zpow_add₀ (by norm_num)]
  congr 2
  omega

/-- Bits that are zero are shifted out of a mantissa without a trace. -/
theorem shift_exact (k j : Nat) :
    ExtendedMantissa.ofMantissaAndAccuracy (k * 2 ^ j) .exact >>> j =
      ExtendedMantissa.ofMantissaAndAccuracy k .exact := by
  change j.repeat ExtendedMantissa.shiftRightOne _ = _
  induction j generalizing k with
  | zero => simp [Nat.repeat]
  | succ j inductionHypothesis =>
    have shifted := inductionHypothesis (k * 2)
    rw [show k * 2 ^ (j + 1) = k * 2 * 2 ^ j by ring, Nat.repeat, shifted]
    simp [ExtendedMantissa.shiftRightOne, ExtendedMantissa.ofMantissaAndAccuracy]

/-- A mantissa with zeros behind its first 53 bits is brought to those. -/
theorem shift_to_target (k j : Nat) (e : Int) (bits : k.log2 = 52) (lower : -1074 ≤ e + j) :
    shiftToTargetExponent Format.binary64 (k * 2 ^ j) e .exact =
      (ExtendedMantissa.ofMantissaAndAccuracy k .exact, e + j) := by
  have positive := positive_of_bits bits
  have length : (k * 2 ^ j).log2 = 52 + j := by rw [log2_scaled k j positive, bits]
  have target : Format.binary64.targetExponent (totalExponent (k * 2 ^ j) e) = e + j := by
    simp only [Format.targetExponent, totalExponent, length, Format.mantissaBits,
      Format.minExponent]
    omega
  have amount : (e + j - e).toNat = j := by omega
  simp only [shiftToTargetExponent, target, shiftToExponent, amount, shift_exact]

/-- A mantissa with zeros behind its first 53 bits is not rounded. -/
theorem round_exact (k j : Nat) (e : Int) (bits : k.log2 = 52) (lower : -1074 ≤ e + j) :
    roundWithAccuracy Format.binary64 .positive (k * 2 ^ j) e .exact =
      .finite .positive k (e + j) (positive_of_bits bits) := by
  have positive := positive_of_bits bits
  have again := shift_to_target k 0 (e + j) bits (by simpa using lower)
  simp only [Nat.pow_zero, Nat.mul_one, Int.natCast_zero, Int.add_zero] at again
  simp only [roundWithAccuracy, shift_to_target k j e bits lower,
    ExtendedMantissa.ofMantissaAndAccuracy, ExtendedMantissa.roundedMantissa,
    ExtendedMantissa.accuracy, Accuracy.roundToNearestEven, again, positive.ne', dite_false]

/-- A mantissa of 53 bits survives being packed and unpacked. -/
theorem unpack_pack (k : Nat) (e : Int) (bits : k.log2 = 52) (range : InRange e) :
    (Float.Model.pack (.finite .positive k e (positive_of_bits bits))).unpack =
      .finite .positive k e (positive_of_bits bits) := by
  obtain ⟨lower, upper⟩ := range
  obtain ⟨first, last⟩ := (bits_iff k (positive_of_bits bits)).mp bits
  have biased : (BitVec.ofNat 11 (e + 1023 + 52).toNat).toNat = (e + 1075).toNat := by
    rw [BitVec.toNat_ofNat]
    omega
  have finite : BitVec.ofNat 11 (e + 1023 + 52).toNat ≠ -1#11 := by
    intro same
    have := congrArg BitVec.toNat same
    rw [biased] at this
    change (e + 1075).toNat = 2047 at this
    omega
  have normal : BitVec.ofNat 11 (e + 1023 + 52).toNat ≠ 0#11 := by
    intro same
    have := congrArg BitVec.toNat same
    rw [biased] at this
    change (e + 1075).toNat = 0 at this
    omega
  have mantissa : (1#1 ++ BitVec.ofNat 52 k).toNat = k := by
    rw [BitVec.toNat_append, ← Nat.shiftLeft_add_eq_or_of_lt (BitVec.isLt _), BitVec.toNat_ofNat,
      Nat.shiftLeft_eq]
    change 1 * 2 ^ 52 + k % 2 ^ 52 = k
    omega
  have fits : ¬2 ^ 11 ≤ (e + 1023 + 52).toNat + 1 := by omega
  have packed : UnpackedFloat.pack Format.binary64 (.finite .positive k e (positive_of_bits bits)) =
      packComponents Format.binary64 .positive (BitVec.ofNat 11 (e + 1023 + 52).toNat)
        (BitVec.ofNat 52 k) := by
    change (if 2 ^ 11 ≤ (e + 1023 + 52).toNat + 1 then _ else if k.log2 + 1 = 53 then _ else _) = _
    rw [if_neg fits, bits, if_pos rfl]
    rfl
  change UnpackedFloat.unpack Format.binary64 (UnpackedFloat.pack Format.binary64 _) = _
  rw [packed]
  simp only [UnpackedFloat.unpack, unpackMantissa_packComponents, unpackExponent_packComponents,
    unpackSign_packComponents, finite, normal, if_false, biased, mantissa]
  congr 1
  change ((e + 1075).toNat : Int) - (1023 + 52) = e
  omega

/-- If a number is written with two mantissas, the longer one has the smaller exponent. -/
theorem exponent_lt (m n p q : Nat) (f e : Int) (low : 2 ^ p ≤ m) (high : n < 2 ^ q)
    (same : (m : ℚ) * (2 : ℚ) ^ f = n * (2 : ℚ) ^ e) : p + f < q + e := by
  have two : (2 : ℚ) ≠ 0 := by norm_num
  have less : (2 : ℚ) ^ ((p : Int) + f) < (2 : ℚ) ^ ((q : Int) + e) := by
    calc (2 : ℚ) ^ ((p : Int) + f) = (2 : ℚ) ^ p * (2 : ℚ) ^ f := by
          rw [zpow_add₀ two, zpow_natCast]
      _ ≤ m * (2 : ℚ) ^ f := by
          have : (2 : ℚ) ^ p ≤ m := by exact_mod_cast low
          gcongr
      _ = n * (2 : ℚ) ^ e := same
      _ < (2 : ℚ) ^ q * (2 : ℚ) ^ e := by
          have : (n : ℚ) < (2 : ℚ) ^ q := by exact_mod_cast high
          gcongr
      _ = (2 : ℚ) ^ ((q : Int) + e) := by rw [zpow_add₀ two, zpow_natCast]
  exact (zpow_lt_zpow_iff_right₀ (by norm_num)).mp less

/-- If a number is written with two mantissas, the one with the smaller exponent is the other one
with zeros behind it. -/
theorem mantissa_eq (m n : Nat) (f e : Int) (less : f ≤ e)
    (same : (m : ℚ) * (2 : ℚ) ^ f = n * (2 : ℚ) ^ e) : m = n * 2 ^ (e - f).toNat := by
  have power : (2 : ℚ) ^ e = (2 : ℚ) ^ (e - f).toNat * (2 : ℚ) ^ f := by
    rw [← zpow_natCast, ← zpow_add₀ (by norm_num)]
    congr 1
    omega
  have cancelled : (m : ℚ) = n * (2 : ℚ) ^ (e - f).toNat := by
    have nonzero : (2 : ℚ) ^ f ≠ 0 := zpow_ne_zero f (by norm_num)
    apply mul_right_cancel₀ nonzero
    rw [same, power, mul_assoc]
  exact_mod_cast cancelled

/-- Rounding a number with 53 bits or more gives the number if it can be represented. -/
theorem holds_rounded (m : Nat) (f : Int) (long : 2 ^ 52 ≤ m)
    (exact : Representable (m * (2 : ℚ) ^ f)) :
    Holds ⟨Float.Model.pack (roundWithAccuracy Format.binary64 .positive m f .exact)⟩
      (m * (2 : ℚ) ^ f) := by
  generalize written : (m : ℚ) * (2 : ℚ) ^ f = q at exact ⊢
  cases exact with
  | zero =>
    have power : (2 : ℚ) ^ f ≠ 0 := zpow_ne_zero f (by norm_num)
    have none : m = 0 := by exact_mod_cast (mul_eq_zero.mp written).resolve_right power
    rw [none] at long
    contradiction
  | normal k e bits range =>
    have high : k < 2 ^ 53 := ((bits_iff k (positive_of_bits bits)).mp bits).2
    have less := exponent_lt m k 52 53 f e long high written
    have zeros := mantissa_eq m k f e (by omega) written
    have shifted : f + (e - f).toNat = e := by omega
    have rounded := round_exact k (e - f).toNat f bits (by rw [shifted]; exact range.1)
    simp only [shifted] at rounded
    rw [zeros, rounded]
    exact .normal k e (positive_of_bits bits) bits range (unpack_pack k e bits range)

/-- The packed zero holds zero. -/
theorem holds_zero : Holds ⟨Float.Model.pack (.zero .positive)⟩ 0 :=
  .zero rfl

/-- A product is exact if it can be represented. -/
theorem Holds.mul {x y : Float} {a b : ℚ} (held : Holds x a) (heldOther : Holds y b)
    (exact : Representable (a * b)) : Holds (x * y) (a * b) := by
  have product : x * y = ⟨Float.Model.pack
      (UnpackedFloat.mul Format.binary64 x.toModel.unpack y.toModel.unpack)⟩ := rfl
  cases held with
  | zero unpacked =>
    rw [zero_mul]
    cases heldOther with
    | zero unpackedOther =>
      rw [product, unpacked, unpackedOther]
      exact holds_zero
    | normal n g positiveOther bitsOther rangeOther unpackedOther =>
      rw [product, unpacked, unpackedOther]
      exact holds_zero
  | normal m f positive bits range unpacked =>
    cases heldOther with
    | zero unpackedOther =>
      rw [mul_zero, product, unpacked, unpackedOther]
      exact holds_zero
    | normal n g positiveOther bitsOther rangeOther unpackedOther =>
      have long : 2 ^ 52 ≤ m * n := by
        have first := ((bits_iff m positive).mp bits).1
        calc 2 ^ 52 ≤ m * 1 := by simpa using first
          _ ≤ m * n := Nat.mul_le_mul_left m positiveOther
      have written : (m : ℚ) * (2 : ℚ) ^ f * (n * (2 : ℚ) ^ g) =
          ((m * n : Nat) : ℚ) * (2 : ℚ) ^ (f + g) := by
        rw [zpow_add₀ (by norm_num)]
        push_cast
        ring
      rw [written] at exact ⊢
      rw [product, unpacked, unpackedOther]
      exact holds_rounded (m * n) (f + g) long exact

/-- Dividing mantissas leaves no remainder if the quotient can be represented. -/
theorem divide_exact (m n k : Nat) (f g e : Int) (bits : m.log2 = 52) (bitsOther : n.log2 = 52)
    (bitsWhole : k.log2 = 52) (lower : -1074 ≤ e)
    (same : (m : ℚ) * (2 : ℚ) ^ f / (n * (2 : ℚ) ^ g) = k * (2 : ℚ) ^ e) :
    ∃ (t : Int) (j : Nat), t + j = e ∧
      divCore Format.binary64 m f n g = (k * 2 ^ j, t, .exact) := by
  have positive := positive_of_bits bitsOther
  have long := ((bits_iff m (positive_of_bits bits)).mp bits).1
  have short := ((bits_iff n positive).mp bitsOther).2
  have shortWhole := ((bits_iff k (positive_of_bits bitsWhole)).mp bitsWhole).2
  have crossed : (m : ℚ) * (2 : ℚ) ^ (f - g) = ((k * n : Nat) : ℚ) * (2 : ℚ) ^ e := by
    have divisor : (n : ℚ) * (2 : ℚ) ^ g ≠ 0 := by positivity
    have power : (2 : ℚ) ^ g ≠ 0 := zpow_ne_zero g (by norm_num)
    rw [div_eq_iff divisor] at same
    rw [zpow_sub₀ (by norm_num), mul_div_assoc', same]
    rw [← mul_assoc, mul_div_cancel_right₀ _ power]
    push_cast
    ring
  have close : f - g - 53 ≤ e := by
    have high : k * n < 2 ^ 106 := by
      calc k * n < 9007199254740992 * 9007199254740992 :=
            Nat.mul_lt_mul'' shortWhole short
        _ = 2 ^ 106 := by norm_num
    have := exponent_lt m (k * n) 52 106 (f - g) e long high crossed
    omega
  -- The target lies so low that the quotient gets all of its bits.
  generalize chosen : min (f - g) (max (f - g - 53) (-1074)) = t
  have target : Format.binary64.targetExponent (totalExponent m f - totalExponent n g) =
      max (f - g - 53) (-1074) := by
    simp only [Format.targetExponent, totalExponent, bits, bitsOther, Format.mantissaBits,
      Format.minExponent]
    omega
  have dividend : m <<< (f - g - t).toNat = n * (k * 2 ^ (e - t).toNat) := by
    have widened : ((m <<< (f - g - t).toNat : Nat) : ℚ) * (2 : ℚ) ^ t =
        ((k * n : Nat) : ℚ) * (2 : ℚ) ^ e := by
      have low : t = f - g - (f - g - t).toNat := by omega
      rw [← crossed, Nat.shiftLeft_eq, ← value_widened m (f - g - t).toNat (f - g), ← low]
    rw [mantissa_eq _ _ t e (by omega) widened]
    ring
  refine ⟨t, (e - t).toNat, by omega, ?_⟩
  simp only [divCore, target, chosen, dividend, Nat.mul_div_cancel_left _ positive,
    Nat.mul_mod_right, accuracyOfFraction, if_true]

/-- A quotient is exact if it can be represented. -/
theorem Holds.div {x y : Float} {a b : ℚ} (held : Holds x a) (heldOther : Holds y b)
    (nonzero : b ≠ 0) (exact : Representable (a / b)) : Holds (x / y) (a / b) := by
  have quotient : x / y = ⟨Float.Model.pack
      (UnpackedFloat.div Format.binary64 x.toModel.unpack y.toModel.unpack)⟩ := rfl
  cases heldOther with
  | zero unpackedOther => contradiction
  | normal n g positiveOther bitsOther rangeOther unpackedOther =>
    cases held with
    | zero unpacked =>
      rw [zero_div, quotient, unpacked, unpackedOther]
      exact holds_zero
    | normal m f positive bits range unpacked =>
      rw [quotient, unpacked, unpackedOther]
      generalize written : (m : ℚ) * (2 : ℚ) ^ f / (n * (2 : ℚ) ^ g) = q at exact ⊢
      cases exact with
      | zero =>
        have dividend : (m : ℚ) * (2 : ℚ) ^ f ≠ 0 := by positivity
        exact absurd written (div_ne_zero dividend nonzero)
      | normal k e bitsWhole rangeWhole =>
        obtain ⟨t, j, sum, divided⟩ :=
          divide_exact m n k f g e bits bitsOther bitsWhole rangeWhole.1 written
        have rounded := round_exact k j t bitsWhole (by rw [sum]; exact rangeWhole.1)
        simp only [sum] at rounded
        have result : UnpackedFloat.div Format.binary64 (.finite .positive m f positive)
            (.finite .positive n g positiveOther) =
              .finite .positive k e (positive_of_bits bitsWhole) := by
          simp only [UnpackedFloat.div, divided]
          exact rounded
        rw [result]
        exact .normal k e (positive_of_bits bitsWhole) bitsWhole rangeWhole
          (unpack_pack k e bitsWhole rangeWhole)

/-- Of two numbers with 53 bits, the one with the smaller exponent is less. -/
theorem less_of_exponent (k n : Nat) (e f : Int) (bits : k.log2 = 52) (bitsOther : n.log2 = 52)
    (less : e < f) : (k : ℚ) * (2 : ℚ) ^ e < n * (2 : ℚ) ^ f := by
  have short : k < 2 ^ 53 := ((bits_iff k (positive_of_bits bits)).mp bits).2
  have long : 2 ^ 52 ≤ n := ((bits_iff n (positive_of_bits bitsOther)).mp bitsOther).1
  have nonzero : (2 : ℚ) ≠ 0 := by norm_num
  calc (k : ℚ) * (2 : ℚ) ^ e < (2 : ℚ) ^ 53 * (2 : ℚ) ^ e := by
        have : (k : ℚ) < (2 : ℚ) ^ 53 := by exact_mod_cast short
        gcongr
    _ = (2 : ℚ) ^ 52 * (2 : ℚ) ^ (e + 1) := by
        rw [zpow_add_one₀ nonzero]
        ring
    _ ≤ n * (2 : ℚ) ^ f := by
        have : (2 : ℚ) ^ 52 ≤ n := by exact_mod_cast long
        have : (2 : ℚ) ^ (e + 1) ≤ (2 : ℚ) ^ f := zpow_le_zpow_right₀ (by norm_num) less
        gcongr

/-- Floats are compared as they are unpacked. -/
theorem le_iff_compare (x y : Float) :
    x ≤ y ↔ (x.toModel.unpack.compare y.toModel.unpack).any Ordering.isLE = true := by
  change x.le y = true ↔ _
  rw [Float.le, decide_eq_true_iff]
  rfl

/-- Floats are compared as the numbers that they hold. -/
theorem Holds.le_iff {x y : Float} {a b : ℚ} (held : Holds x a) (heldOther : Holds y b) :
    x ≤ y ↔ a ≤ b := by
  rw [le_iff_compare]
  cases held with
  | zero unpacked =>
    cases heldOther with
    | zero unpackedOther => simp [unpacked, unpackedOther, UnpackedFloat.compare]
    | normal n g positiveOther bitsOther rangeOther unpackedOther =>
      have : (0 : ℚ) ≤ n * (2 : ℚ) ^ g := by positivity
      simp [unpacked, unpackedOther, UnpackedFloat.compare, this]
  | normal m f positive bits range unpacked =>
    cases heldOther with
    | zero unpackedOther =>
      have : ¬(m : ℚ) * (2 : ℚ) ^ f ≤ 0 := by
        rw [not_le]
        positivity
      simp [unpacked, unpackedOther, UnpackedFloat.compare, this]
    | normal n g positiveOther bitsOther rangeOther unpackedOther =>
      simp only [unpacked, unpackedOther, UnpackedFloat.compare]
      rcases lt_trichotomy f g with less | rfl | greater
      · have := less_of_exponent m n f g bits bitsOther less
        simp [compare_lt_iff_lt.mpr less, this.le]
      · have power : (0 : ℚ) < (2 : ℚ) ^ f := by positivity
        rw [mul_le_mul_iff_left₀ power]
        simp [Nat.isLE_compare]
      · have := less_of_exponent n m g f bitsOther bits greater
        simp [compare_gt_iff_gt.mpr greater, this]

/-- A number of at most 53 bits, scaled by a power of two, can be represented. -/
theorem representable_scaled (n : Nat) (e : Int) (short : n < 2 ^ 53) (lower : -1022 ≤ e)
    (upper : e ≤ 971) : Representable (n * (2 : ℚ) ^ e) := by
  rcases Nat.eq_zero_or_pos n with rfl | positive
  · rw [Nat.cast_zero, zero_mul]
    exact .zero
  · have bits := log2_widened n positive short
    rw [← value_widened n (52 - n.log2) e]
    exact .normal _ _ bits ⟨by omega, by omega⟩

/-- A whole number of at most 53 bits can be represented. -/
theorem representable_nat (n : Nat) (short : n < 2 ^ 53) : Representable n := by
  simpa using representable_scaled n 0 short (by norm_num) (by norm_num)

/-- Whole numbers of at most 53 bits are packed exactly. -/
theorem holds_packed (n : Nat) (short : n < 2 ^ 53) :
    Holds ⟨Float.Model.pack (UnpackedFloat.ofInt Format.binary64 n)⟩ n := by
  rcases Nat.eq_zero_or_pos n with rfl | positive
  · exact_mod_cast holds_zero
  · have bits := log2_widened n positive short
    have long := ((bits_iff _ (positive_of_bits bits)).mp bits).1
    have length : n.log2 < 53 := (Nat.log2_lt positive.ne').mpr short
    have target : Format.binary64.targetExponent (totalExponent n 0) = (n.log2 : Int) - 52 := by
      simp only [Format.targetExponent, totalExponent, Format.mantissaBits, Format.minExponent]
      omega
    have amount : (0 - ((n.log2 : Int) - 52)).toNat = 52 - n.log2 := by omega
    have written := value_widened n (52 - n.log2) 0
    rw [zpow_zero, mul_one] at written
    have rounded := holds_rounded (n * 2 ^ (52 - n.log2)) (0 - (52 - n.log2 : Nat)) long
      (by rw [written]; exact representable_nat n short)
    rw [written] at rounded
    simp only [UnpackedFloat.ofInt, UnpackedFloat.normalize,
      Int.compare_eq_gt.mpr (Int.natCast_pos.mpr positive), Int.toNat_natCast, UnpackedFloat.round,
      target, decreaseExponent, amount, Nat.shiftLeft_eq]
    exact rounded

/-- A float whose mantissa has no bit but its first one holds a power of two. -/
theorem holds_power (x : Float) (e : Int) (range : InRange e)
    (unpacked : x.toModel.unpack = .finite .positive 4503599627370496 e (by decide)) :
    Holds x ((2 : ℚ) ^ (52 + e)) := by
  have written : (2 : ℚ) ^ (52 + e) = (4503599627370496 : Nat) * (2 : ℚ) ^ e := by
    rw [zpow_add₀ (by norm_num)]
    norm_num
  rw [written]
  exact .normal 4503599627370496 e (by decide) (by decide) range unpacked

/-- A word of 32 bits is converted exactly. -/
theorem holds_toFloat (n : UInt32) : Holds n.toFloat n.toNat := by
  have short := n.toNat_lt
  exact holds_packed n.toNat (by omega)

/-- A word of 64 bits is converted exactly if it takes at most 53 of them. -/
theorem holds_word (n : UInt64) (short : n.toNat < 2 ^ 53) : Holds n.toFloat n.toNat :=
  holds_packed n.toNat short

/-- A whole number of at most 53 bits is converted exactly. -/
theorem holds_ofInt (n : Nat) (short : n < 2 ^ 53) : Holds (Float.ofInt n) n := by
  have converted : Float.ofInt n =
      n.toUInt64.toFloat * Float.exactlyRepresentablePowersOfTen[0] := by
    change Float.ofScientific n false 0 = _
    rw [Float.ofScientific, dif_pos ⟨short, by decide⟩]
    rfl
  have word : Holds n.toUInt64.toFloat n := by
    have same : n.toUInt64.toNat = n := UInt64.toNat_ofNat_of_lt (by
      rw [UInt64.size]
      omega)
    have exact := holds_word n.toUInt64 (by omega)
    rwa [same] at exact
  have one : Holds Float.exactlyRepresentablePowersOfTen[0] 1 := by
    simpa using holds_power _ (-52) ⟨by decide, by decide⟩ rfl
  rw [converted]
  have product := word.mul one (by rw [mul_one]; exact representable_nat n short)
  rwa [mul_one] at product

end LiveConfig.ExactFloats
