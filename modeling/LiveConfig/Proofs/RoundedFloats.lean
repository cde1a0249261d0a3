import LiveConfig.Proofs.ExactFloats

/-!
# Rounded floats

Most products of floats are rounded. Rounding never passes a mantissa that needs no rounding itself
(`rounded_between`), and that is all that is used here.

A float between zero and one has an exponent of -53 at most (`fraction_iff`). A product with such a
float therefore never exceeds the other factor, and it is still greater than zero if the other
factor is one at least (`fraction_mul`). This holds of subnormal floats, and of whole numbers that
are too large for any float.
-/

namespace LiveConfig.RoundedFloats

open Float.Model Float.Model.UnpackedFloat
open ExactFloats (InRange Holds)

/-! ## Rounding -/

/-- What is left of a mantissa after its last bits are shifted out, and what the bits leave behind:
nothing exactly if they are all zero. -/
theorem shifted_out (m s : Nat) :
    (ExtendedMantissa.ofMantissaAndAccuracy m .exact >>> s).mantissa = m / 2 ^ s ∧
      ((ExtendedMantissa.ofMantissaAndAccuracy m .exact >>> s).accuracy = .exact ↔
        m % 2 ^ s = 0) := by
  change (s.repeat ExtendedMantissa.shiftRightOne ⟨m, false, false⟩).mantissa = _ ∧
    ((s.repeat ExtendedMantissa.shiftRightOne ⟨m, false, false⟩).accuracy = .exact ↔ _)
  induction s with
  | zero => simp [Nat.repeat, ExtendedMantissa.accuracy, Nat.mod_one]
  | succ s inductionHypothesis =>
    rw [Nat.repeat]
    generalize s.repeat ExtendedMantissa.shiftRightOne ⟨m, false, false⟩ = em
      at inductionHypothesis ⊢
    obtain ⟨mantissa, round, sticky⟩ := em
    obtain ⟨rfl, exact⟩ := inductionHypothesis
    constructor
    · rw [Nat.pow_succ, ← Nat.div_div_eq_div_mul]
      rfl
    · have lost : m % 2 ^ (s + 1) = 0 ↔ m / 2 ^ s % 2 = 0 ∧ m % 2 ^ s = 0 := by
        rw [Nat.pow_succ, Nat.mod_mul, Nat.add_eq_zero_iff, Nat.mul_eq_zero, and_comm]
        simp
      rw [lost, ← exact]
      cases parity : m / 2 ^ s % 2 != 0 <;> cases round <;> cases sticky <;>
        simp_all [ExtendedMantissa.shiftRightOne, ExtendedMantissa.accuracy]

/-- A rounded mantissa lies between the whole numbers around the exact one. -/
theorem rounded_between (m s : Nat) :
    m / 2 ^ s ≤ (ExtendedMantissa.ofMantissaAndAccuracy m .exact >>> s).roundedMantissa ∧
      ∀ c, m ≤ c * 2 ^ s →
        (ExtendedMantissa.ofMantissaAndAccuracy m .exact >>> s).roundedMantissa ≤ c := by
  obtain ⟨mantissa, exact⟩ := shifted_out m s
  generalize ExtendedMantissa.ofMantissaAndAccuracy m .exact >>> s = em at mantissa exact ⊢
  have power : 0 < 2 ^ s := Nat.two_pow_pos s
  by_cases whole : m % 2 ^ s = 0
  · have rounded : em.roundedMantissa = m / 2 ^ s := by
      rw [ExtendedMantissa.roundedMantissa, exact.mpr whole, mantissa]
      rfl
    rw [rounded]
    refine ⟨le_rfl, fun c bound => ?_⟩
    exact (Nat.div_le_iff_le_mul_add_pred power).mpr (by rw [Nat.mul_comm] at bound; omega)
  · have rounded : m / 2 ^ s ≤ em.roundedMantissa ∧ em.roundedMantissa ≤ m / 2 ^ s + 1 := by
      rw [ExtendedMantissa.roundedMantissa, mantissa]
      rcases em.accuracy with _ | (_ | _ | _) <;>
        simp only [Accuracy.roundToNearestEven] <;> omega
    refine ⟨rounded.1, fun c bound => rounded.2.trans ?_⟩
    -- The exact mantissa is not whole, and so it is less than the bound.
    have split := Nat.div_add_mod m (2 ^ s)
    have less : 2 ^ s * (m / 2 ^ s) < 2 ^ s * c := by
      rw [Nat.mul_comm _ c]
      omega
    exact Nat.lt_of_mul_lt_mul_left less

/-- A mantissa of 53 bits or fewer is not shifted if its exponent is in range. -/
theorem shift_none (r : Nat) (t : Int) (short : r < 2 ^ 53) (lower : -1074 ≤ t) :
    shiftToTargetExponent Format.binary64 r t .exact = (⟨r, false, false⟩, t) := by
  have length : r.log2 < 53 := by
    rcases Nat.eq_zero_or_pos r with rfl | positive
    · decide
    · exact (Nat.log2_lt positive.ne').mpr short
  have amount : (Format.binary64.targetExponent (totalExponent r t) - t).toNat = 0 := by
    simp only [Format.targetExponent, totalExponent, Format.mantissaBits, Format.minExponent]
    omega
  simp only [shiftToTargetExponent, shiftToExponent, amount]
  exact Prod.ext rfl (Int.add_zero t)

/-- A number of 53 bits or more is rounded to a mantissa at the exponent that leaves it 53 bits, or
at the least exponent. If rounding makes the mantissa longer, the exponent is greater by one. -/
theorem round_long (m : Nat) (f t : Int) (long : 2 ^ 52 ≤ m)
    (target : t = max ((m.log2 : Int) + f - 52) (-1074)) (whole : 2 ^ (t - f).toNat ≤ m) :
    ∃ r, m / 2 ^ (t - f).toNat ≤ r ∧ (∀ c, m ≤ c * 2 ^ (t - f).toNat → r ≤ c) ∧
      ((r < 2 ^ 53 ∧ ∃ positive : 0 < r,
          roundWithAccuracy Format.binary64 .positive m f .exact = .finite .positive r t positive) ∨
        (r = 2 ^ 53 ∧ roundWithAccuracy Format.binary64 .positive m f .exact =
          .finite .positive (2 ^ 52) (t + 1) (by decide))) := by
  have nonzero : m ≠ 0 := (Nat.lt_of_lt_of_le (Nat.two_pow_pos 52) long).ne'
  have bits : 52 ≤ m.log2 := (Nat.le_log2 nonzero).mpr long
  have first : shiftToTargetExponent Format.binary64 m f .exact =
      (ExtendedMantissa.ofMantissaAndAccuracy m .exact >>> (t - f).toNat, t) := by
    have same : Format.binary64.targetExponent (totalExponent m f) = t := by
      simp only [Format.targetExponent, totalExponent, Format.mantissaBits, Format.minExponent]
      omega
    simp only [shiftToTargetExponent, shiftToExponent, same]
    exact Prod.ext rfl (by simp only; omega)
  obtain ⟨lower, upper⟩ := rounded_between m (t - f).toNat
  obtain ⟨r, rounded⟩ : ∃ r, (ExtendedMantissa.ofMantissaAndAccuracy m .exact >>>
      (t - f).toNat).roundedMantissa = r := ⟨_, rfl⟩
  rw [rounded] at lower upper
  refine ⟨r, lower, upper, ?_⟩
  have some : 0 < r := (Nat.div_pos whole (Nat.two_pow_pos _)).trans_le lower
  have least : -1074 ≤ t := by omega
  have short : r ≤ 2 ^ 53 := by
    apply upper
    rw [← Nat.pow_add]
    exact (Nat.lt_log2_self.trans_le (Nat.pow_le_pow_right (by decide) (by omega))).le
  rcases Nat.lt_or_eq_of_le short with less | carried
  · refine .inl ⟨less, some, ?_⟩
    simp only [roundWithAccuracy, first, rounded, shift_none r t less least, some.ne', dite_false]
  · have again := ExactFloats.shift_to_target (2 ^ 52) 1 t (by decide) (by omega)
    have doubled : 2 ^ 52 * 2 ^ 1 = 2 ^ 53 := rfl
    rw [doubled] at again
    refine .inr ⟨carried, ?_⟩
    simp only [roundWithAccuracy, first, rounded, carried, again]
    rfl

/-! ## Unpacking -/

/-- How the mantissa and the exponent of a float are unpacked: the mantissa has 53 bits, unless the
exponent is the least one. -/
structure Canonical (k : Nat) (e : Int) : Prop where
  short : k < 2 ^ 53
  range : InRange e
  long : 2 ^ 52 ≤ k ∨ e = -1074

/-- What is unpacked as a finite number is canonical. -/
theorem unpack_canonical {x : Float.Model} {s : Sign} {k : Nat} {e : Int} {positive : 0 < k}
    (unpacked : x.unpack = .finite s k e positive) : Canonical k e := by
  change UnpackedFloat.unpack Format.binary64 _ = _ at unpacked
  generalize x.toBits.toBitVec = b at unpacked
  obtain ⟨exponent, isExponent⟩ : ∃ v : BitVec 11, @unpackExponent Format.binary64 b = v := ⟨_, rfl⟩
  obtain ⟨mantissa, isMantissa⟩ : ∃ v : BitVec 52, @unpackMantissa Format.binary64 b = v := ⟨_, rfl⟩
  simp only [UnpackedFloat.unpack, isExponent, isMantissa] at unpacked
  have bias : (Format.binary64.exponentBias : Int) = 1023 := rfl
  have below := exponent.isLt
  have short := mantissa.isLt
  by_cases special : exponent = -1#11
  · rw [if_pos special] at unpacked
    split at unpacked <;> contradiction
  · rw [if_neg special] at unpacked
    by_cases least : exponent = 0#11
    · rw [if_pos least] at unpacked
      split at unpacked
      · contradiction
      · obtain ⟨-, rfl, rfl⟩ := UnpackedFloat.finite.inj unpacked
        have zero : exponent.toNat = 0 := by rw [least]; rfl
        exact ⟨by omega, ⟨by omega, by omega⟩, .inr (by omega)⟩
    · rw [if_neg least] at unpacked
      obtain ⟨-, rfl, rfl⟩ := UnpackedFloat.finite.inj unpacked
      have notZero : exponent.toNat ≠ 0 := fun zero => least (BitVec.eq_of_toNat_eq zero)
      have notLast : exponent.toNat ≠ 2047 := fun last => special (BitVec.eq_of_toNat_eq last)
      have implicit : (1#1 ++ mantissa).toNat = 2 ^ 52 + mantissa.toNat := by
        rw [BitVec.toNat_append, ← Nat.shiftLeft_add_eq_or_of_lt short, Nat.shiftLeft_eq]
        rfl
      rw [implicit]
      exact ⟨by omega, ⟨by omega, by omega⟩, .inl (by omega)⟩

/-- What is canonical survives being packed and unpacked. -/
theorem Canonical.unpack_pack {k : Nat} {e : Int} (canonical : Canonical k e) (positive : 0 < k) :
    (Float.Model.pack (.finite .positive k e positive)).unpack =
      .finite .positive k e positive := by
  obtain ⟨short, range, long⟩ := canonical
  by_cases normal : 2 ^ 52 ≤ k
  · exact ExactFloats.unpack_pack k e ((ExactFloats.bits_iff k positive).mpr ⟨normal, short⟩) range
  · obtain rfl := long.resolve_left normal
    have bits : ¬k.log2 + 1 = 53 := by
      have := (Nat.log2_lt positive.ne').mpr (Nat.lt_of_not_le normal)
      omega
    have packed : UnpackedFloat.pack Format.binary64 (.finite .positive k (-1074) positive) =
        packComponents Format.binary64 .positive 0#11 (BitVec.ofNat 52 k) := by
      unfold UnpackedFloat.pack
      exact (if_neg (by decide)).trans (if_neg bits)
    have mantissa : (BitVec.ofNat 52 k).toNat = k := by
      rw [BitVec.toNat_ofNat]
      exact Nat.mod_eq_of_lt (Nat.lt_of_not_le normal)
    have nonzero : BitVec.ofNat 52 k ≠ 0#52 := by
      intro zero
      rw [zero] at mantissa
      exact positive.ne mantissa
    change UnpackedFloat.unpack Format.binary64 (UnpackedFloat.pack Format.binary64 _) = _
    rw [packed]
    simp only [UnpackedFloat.unpack, unpackMantissa_packComponents, unpackExponent_packComponents,
      unpackSign_packComponents, nonzero, mantissa]
    rfl

/-- A number with an exponent that is too great is packed as infinity. -/
theorem unpack_pack_great {k : Nat} {e : Int} (positive : 0 < k) (great : 971 < e) :
    (Float.Model.pack (.finite .positive k e positive)).unpack = .infinity .positive := by
  have packed : UnpackedFloat.pack Format.binary64 (.finite .positive k e positive) =
      packedInfinity Format.binary64 .positive := by
    change (if 2 ^ 11 ≤ (e + 1023 + 52).toNat + 1 then _ else _) = _
    exact if_pos (by omega)
  change UnpackedFloat.unpack Format.binary64 (UnpackedFloat.pack Format.binary64 _) = _
  rw [packed]
  rfl

/-! ## Comparisons -/

/-- Floats are compared as they are unpacked. -/
theorem lt_iff_compare (x y : Float) :
    x < y ↔ x.toModel.unpack.compare y.toModel.unpack = some .lt := by
  change x.lt y = true ↔ _
  rw [Float.lt, decide_eq_true_iff]
  change (x.toModel.unpack.compare y.toModel.unpack == some .lt) = true ↔ _
  rw [beq_iff_eq]

theorem unpack_zero : (0 : Float).toModel.unpack = .zero .positive :=
  rfl

theorem unpack_one :
    (1 : Float).toModel.unpack = .finite .positive (2 ^ 52) (-52) (Nat.two_pow_pos 52) :=
  rfl

/-- Exponents are compared first, and mantissas only where exponents are equal. -/
theorem then_isLE_iff (e g : Int) (k n : Nat) :
    ((compare e g).then (compare k n)).isLE = true ↔ e < g ∨ e = g ∧ k ≤ n := by
  rcases lt_trichotomy e g with less | rfl | greater
  · simp [compare_lt_iff_lt.mpr less, less]
  · simp [Nat.isLE_compare]
  · simp [compare_gt_iff_gt.mpr greater, greater.not_gt, greater.ne']

theorem then_eq_lt_iff (e g : Int) (k n : Nat) :
    (compare e g).then (compare k n) = .lt ↔ e < g ∨ e = g ∧ k < n := by
  rcases lt_trichotomy e g with less | rfl | greater
  · simp [compare_lt_iff_lt.mpr less, less]
  · simp [compare_lt_iff_lt]
  · simp [compare_gt_iff_gt.mpr greater, greater.not_gt, greater.ne']

/-- Only what has the positive sign is greater than zero. -/
theorem pos_iff (x : Float) :
    0 < x ↔ x.toModel.unpack = .infinity .positive ∨
      ∃ k e positive, x.toModel.unpack = .finite .positive k e positive := by
  rw [lt_iff_compare, unpack_zero]
  rcases x.toModel.unpack with s | _ | s | ⟨s, k, e, positive⟩
  · cases s <;> simp [UnpackedFloat.compare]
  · simp [UnpackedFloat.compare]
  · simp [UnpackedFloat.compare]
  · cases s <;> simp [UnpackedFloat.compare, positive]

/-- What is neither below zero nor greater is zero. -/
theorem zero_iff (x : Float) : 0 ≤ x ∧ ¬0 < x ↔ ∃ s, x.toModel.unpack = .zero s := by
  rw [ExactFloats.le_iff_compare, lt_iff_compare, unpack_zero]
  rcases x.toModel.unpack with s | _ | s | ⟨s, k, e, positive⟩
  · cases s <;> simp [UnpackedFloat.compare]
  · simp [UnpackedFloat.compare]
  · simp [UnpackedFloat.compare]
  · cases s <;> simp [UnpackedFloat.compare]

/-- What is greater than zero is not at most zero. -/
theorem not_le_zero {x : Float} (positive : 0 < x) : ¬x ≤ 0 := by
  rw [ExactFloats.le_iff_compare, unpack_zero]
  rcases (pos_iff x).mp positive with unpacked | ⟨k, e, some, unpacked⟩ <;>
    simp [unpacked, UnpackedFloat.compare]

/-- A float between zero and one has a small exponent. -/
theorem fraction_iff (x : Float) :
    0 < x ∧ x < 1 ↔
      ∃ k e positive, x.toModel.unpack = .finite .positive k e positive ∧ e ≤ -53 := by
  rw [pos_iff, lt_iff_compare, unpack_one]
  constructor
  · rintro ⟨unpacked | ⟨k, e, positive, unpacked⟩, less⟩
    · simp [unpacked, UnpackedFloat.compare] at less
    · have canonical := unpack_canonical unpacked
      rw [unpacked] at less
      simp only [UnpackedFloat.compare, Option.some.injEq, then_eq_lt_iff] at less
      refine ⟨k, e, positive, unpacked, ?_⟩
      rcases less with less | ⟨rfl, less⟩
      · omega
      · rcases canonical.long with long | least <;> omega
  · rintro ⟨k, e, positive, unpacked, small⟩
    refine ⟨.inr ⟨k, e, positive, unpacked⟩, ?_⟩
    rw [unpacked]
    simp only [UnpackedFloat.compare, Option.some.injEq, then_eq_lt_iff]
    omega

/-- A float of one at least is infinite, or has 53 bits and no small exponent. -/
theorem one_le_iff (x : Float) :
    1 ≤ x ↔ x.toModel.unpack = .infinity .positive ∨
      ∃ n g positive, x.toModel.unpack = .finite .positive n g positive ∧
        2 ^ 52 ≤ n ∧ -52 ≤ g := by
  rw [ExactFloats.le_iff_compare, unpack_one]
  cases unpacked : x.toModel.unpack with
  | infinity s => cases s <;> simp [UnpackedFloat.compare]
  | notANumber => simp [UnpackedFloat.compare]
  | zero s => simp [UnpackedFloat.compare]
  | finite s n g positive =>
    cases s with
    | negative => simp [UnpackedFloat.compare]
    | positive =>
      have canonical := unpack_canonical unpacked
      simp only [UnpackedFloat.compare, Option.any_some, then_isLE_iff, reduceCtorEq, false_or]
      constructor
      · intro greater
        refine ⟨n, g, positive, rfl, ?_, by omega⟩
        rcases canonical.long with long | least <;> omega
      · rintro ⟨_, _, _, same, long, lower⟩
        obtain ⟨-, rfl, rfl⟩ := UnpackedFloat.finite.inj same
        omega

/-! ## Products -/

/-- What rounding gives is packed as it is, unless its exponent is too great. -/
theorem unpack_rounded (m : Nat) (f t : Int) (long : 2 ^ 52 ≤ m)
    (target : t = max ((m.log2 : Int) + f - 52) (-1074)) (whole : 2 ^ (t - f).toNat ≤ m) :
    ((971 < t ∨ 971 = t ∧ ∀ c, m ≤ c * 2 ^ (t - f).toNat → 2 ^ 53 ≤ c) ∧
      (Float.Model.pack (roundWithAccuracy Format.binary64 .positive m f .exact)).unpack =
        .infinity .positive) ∨
    ∃ k e positive,
      (Float.Model.pack (roundWithAccuracy Format.binary64 .positive m f .exact)).unpack =
        .finite .positive k e positive ∧
      (e = t ∧ (∀ c, m ≤ c * 2 ^ (t - f).toNat → k ≤ c) ∨
        e = t + 1 ∧ k = 2 ^ 52 ∧ ∀ c, m ≤ c * 2 ^ (t - f).toNat → 2 ^ 53 ≤ c) := by
  have nonzero : m ≠ 0 := (Nat.lt_of_lt_of_le (Nat.two_pow_pos 52) long).ne'
  have bits : 52 ≤ m.log2 := (Nat.le_log2 nonzero).mpr long
  obtain ⟨r, lower, upper, ⟨short, positive, rounded⟩ | ⟨rfl, rounded⟩⟩ :=
    round_long m f t long target whole
  · rw [rounded]
    by_cases great : 971 < t
    · exact .inl ⟨.inl great, unpack_pack_great positive great⟩
    · have canonical : Canonical r t := by
        refine ⟨short, ⟨by omega, by omega⟩, ?_⟩
        by_cases least : t = -1074
        · exact .inr least
        · left
          -- The quotient keeps 53 bits of the mantissa.
          have amount : m.log2 = (t - f).toNat + 52 := by omega
          have front := Nat.log2_self_le nonzero
          rw [amount, Nat.pow_add, Nat.mul_comm] at front
          exact ((Nat.le_div_iff_mul_le (Nat.two_pow_pos _)).mpr front).trans lower
      exact .inr ⟨r, t, positive, canonical.unpack_pack positive, .inl ⟨rfl, upper⟩⟩
  · rw [rounded]
    by_cases great : 971 < t + 1
    · refine .inl ⟨?_, unpack_pack_great _ great⟩
      by_cases more : 971 < t
      · exact .inl more
      · exact .inr ⟨by omega, upper⟩
    · have canonical : Canonical (2 ^ 52) (t + 1) :=
        ⟨by decide, ⟨by omega, by omega⟩, .inl le_rfl⟩
      exact .inr ⟨2 ^ 52, t + 1, _, canonical.unpack_pack (by decide), .inr ⟨rfl, rfl, upper⟩⟩

/-- A product with a small exponent in one factor is rounded to no more than the other factor. -/
theorem product_rounded {k n : Nat} {e g : Int} (canonical : Canonical k e) (positive : 0 < k)
    (small : e ≤ -53) (canonicalOther : Canonical n g) (long : 2 ^ 52 ≤ n) (lower : -52 ≤ g) :
    ∃ r t some, (Float.Model.pack (roundWithAccuracy Format.binary64 .positive (k * n) (e + g)
      .exact)).unpack = .finite .positive r t some ∧ (t < g ∨ t = g ∧ r ≤ n) := by
  obtain ⟨least, -⟩ := canonical.range
  obtain ⟨-, greatest⟩ := canonicalOther.range
  have short := canonical.short
  have shortOther := canonicalOther.short
  have grown : n ≤ k * n := Nat.le_mul_of_pos_left n positive
  have nonzero : k * n ≠ 0 := by omega
  have bits : (k * n).log2 < 106 := by
    rw [Nat.log2_lt nonzero]
    calc k * n < 2 ^ 53 * 2 ^ 53 := Nat.mul_lt_mul'' short shortOther
      _ = 2 ^ 106 := by norm_num
  obtain ⟨t, target⟩ : ∃ t, t = max (((k * n).log2 : Int) + (e + g) - 52) (-1074) := ⟨_, rfl⟩
  have whole : 2 ^ (t - (e + g)).toNat ≤ k * n := by
    by_cases subnormal : t = -1074
    · have amount : (t - (e + g)).toNat ≤ 52 := by omega
      exact (Nat.pow_le_pow_right (by decide) amount).trans (long.trans grown)
    · have amount : (t - (e + g)).toNat ≤ (k * n).log2 := by omega
      exact (Nat.pow_le_pow_right (by decide) amount).trans (Nat.log2_self_le nonzero)
  -- At the exponent of the other factor the exact product is no more than the other mantissa.
  have bounded (same : t = g) : k * n ≤ n * 2 ^ (t - (e + g)).toNat := by
    have amount : 53 ≤ (t - (e + g)).toNat := by omega
    have power : 2 ^ 53 ≤ 2 ^ (t - (e + g)).toNat := Nat.pow_le_pow_right (by decide) amount
    rw [Nat.mul_comm]
    exact Nat.mul_le_mul_left n (short.le.trans power)
  have notCarried (same : t = g)
      (carried : ∀ c, k * n ≤ c * 2 ^ (t - (e + g)).toNat → 2 ^ 53 ≤ c) : False :=
    absurd (carried n (bounded same)) (Nat.not_le.mpr shortOther)
  rcases unpack_rounded (k * n) (e + g) t (long.trans grown) target whole with
    ⟨great | ⟨last, carried⟩, -⟩ | ⟨r, u, some, unpacked, ⟨rfl, upper⟩ | ⟨rfl, rfl, carried⟩⟩
  · omega
  · exact (notCarried (by omega) carried).elim
  · refine ⟨r, u, some, unpacked, ?_⟩
    by_cases same : u = g
    · exact .inr ⟨same, upper n (bounded same)⟩
    · exact .inl (by omega)
  · refine ⟨2 ^ 52, t + 1, some, unpacked, ?_⟩
    have different : t ≠ g := fun same => notCarried same carried
    omega

/-- A product with a float between zero and one does not exceed the other factor, and is greater
than zero, if the other factor is one at least. -/
theorem fraction_mul {x y : Float} (fraction : 0 < x ∧ x < 1) (large : 1 ≤ y) :
    x * y ≤ y ∧ 0 < x * y := by
  have product : (x * y).toModel.unpack = (Float.Model.pack
      (UnpackedFloat.mul Format.binary64 x.toModel.unpack y.toModel.unpack)).unpack := rfl
  rw [ExactFloats.le_iff_compare, pos_iff]
  obtain ⟨k, e, positive, unpacked, small⟩ := (fraction_iff x).mp fraction
  rw [unpacked] at product
  rcases (one_le_iff y).mp large with infinite | ⟨n, g, positiveOther, unpackedOther, long, lower⟩
  · rw [infinite] at product
    have result : (x * y).toModel.unpack = .infinity .positive := by
      rw [product, UnpackedFloat.mul]
      rfl
    rw [result, infinite]
    exact ⟨rfl, .inl rfl⟩
  · obtain ⟨r, t, some, rounded, bound⟩ := product_rounded (unpack_canonical unpacked) positive
      small (unpack_canonical unpackedOther) long lower
    rw [unpackedOther] at product
    have result : (x * y).toModel.unpack = .finite .positive r t some := by
      rw [product, UnpackedFloat.mul]
      exact rounded
    rw [result, unpackedOther]
    refine ⟨?_, .inr ⟨r, t, some, rfl⟩⟩
    simpa only [UnpackedFloat.compare, Option.any_some, then_isLE_iff] using bound

/-- A product with zero is zero, or no number if the other factor is infinite. -/
theorem mul_of_zero {x y : Float} (zero : 0 ≤ x ∧ ¬0 < x) (large : 1 ≤ y) :
    (0 ≤ x * y ∧ ¬0 < x * y) ∨ (x * y).toModel.unpack = .notANumber := by
  have product : (x * y).toModel.unpack = (Float.Model.pack
      (UnpackedFloat.mul Format.binary64 x.toModel.unpack y.toModel.unpack)).unpack := rfl
  obtain ⟨s, unpacked⟩ := (zero_iff x).mp zero
  rw [unpacked] at product
  rcases (one_le_iff y).mp large with infinite | ⟨n, g, positiveOther, unpackedOther, -⟩
  · rw [infinite, UnpackedFloat.mul] at product
    exact .inr product
  · rw [unpackedOther, UnpackedFloat.mul] at product
    refine .inl ((zero_iff _).mpr ⟨s * .positive, ?_⟩)
    rw [product]
    cases s <;> rfl

/-! ## Whole numbers -/

/-- A positive whole number is converted to a float of one at least. -/
theorem one_le_ofInt {n : Nat} (positive : 0 < n) : 1 ≤ Float.ofInt n := by
  by_cases short : n < 2 ^ 53
  · have one : Holds 1 1 := by
      simpa using ExactFloats.holds_power 1 (-52) ⟨by decide, by decide⟩ rfl
    rw [one.le_iff (ExactFloats.holds_ofInt n short)]
    exact_mod_cast positive
  · have converted : (Float.ofInt n).toModel.unpack =
        (Float.Model.pack (UnpackedFloat.ofScientific Format.binary64 n 0)).unpack := by
      change (Float.ofScientific n false 0).toModel.unpack = _
      rw [Float.ofScientific, dif_neg (by omega)]
      rfl
    have scaled : UnpackedFloat.ofScientific Format.binary64 n 0 =
        roundWithAccuracy Format.binary64 .positive (n * 2 ^ 53) (-53) .exact := by
      have power : (2 : Int) ^ Format.binary64.exponentBits = 2048 := rfl
      rw [UnpackedFloat.ofScientific, dif_neg positive.ne', if_neg (by decide),
        if_neg (by rw [power]; omega), if_pos le_rfl, UnpackedFloat.mul]
      change roundWithAccuracy Format.binary64 .positive (n <<< 53 * 1) (-53) .exact = _
      rw [Nat.mul_one, Nat.shiftLeft_eq]
    have nonzero : n * 2 ^ 53 ≠ 0 := by omega
    have bits : (n * 2 ^ 53).log2 = n.log2 + 53 := ExactFloats.log2_scaled n 53 positive
    have long : 53 ≤ n.log2 := (Nat.le_log2 positive.ne').mpr (Nat.le_of_not_lt short)
    have whole : 2 ^ ((n.log2 : Int) - 52 - -53).toNat ≤ n * 2 ^ 53 := by
      have amount : ((n.log2 : Int) - 52 - -53).toNat ≤ (n * 2 ^ 53).log2 := by omega
      exact (Nat.pow_le_pow_right (by decide) amount).trans (Nat.log2_self_le nonzero)
    rw [scaled] at converted
    rw [one_le_iff, converted]
    rcases unpack_rounded (n * 2 ^ 53) (-53) (n.log2 - 52) (by omega) (by omega) whole with
      ⟨-, infinite⟩ | ⟨r, t, some, unpacked, exponent⟩
    · exact .inl infinite
    · have canonical := unpack_canonical unpacked
      have lower : 1 ≤ t := by rcases exponent with ⟨rfl, -⟩ | ⟨rfl, -⟩ <;> omega
      exact .inr ⟨r, t, some, unpacked, canonical.long.resolve_right (by omega), by omega⟩

/-- Zero is at most any whole number that is not negative. -/
theorem zero_le_ofInt {x : Float} (zero : 0 ≤ x ∧ ¬0 < x) (n : Nat) : x ≤ Float.ofInt n := by
  obtain ⟨s, unpacked⟩ := (zero_iff x).mp zero
  rw [ExactFloats.le_iff_compare, unpacked]
  rcases Nat.eq_zero_or_pos n with rfl | positive
  · rfl
  · rcases (one_le_iff _).mp (one_le_ofInt positive) with infinite | ⟨k, e, some, finite, -⟩
    · rw [infinite]
      rfl
    · rw [finite]
      rfl

end LiveConfig.RoundedFloats
