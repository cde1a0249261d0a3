import LiveConfig.Proofs.ResolutionCourse
import LiveConfig.Proofs.RoundedFloats
import LiveConfig.Proofs.WeightedBuckets

/-!
# Arms without weight

An arm without weight leaves the running sum of weights as it is. The search for a threshold stops
at such an arm only if nothing is needed to reach the threshold, which is so for the fraction zero
alone: it falls on the first arm, whatever its weight. Every other fraction of the unit interval
falls on an arm with weight.

No total is too large for this. The threshold is a rounded product, but rounding carries it neither
down to zero nor past the total.
-/

namespace LiveConfig.Split

open ExactFloats (Holds)
open RoundedFloats

/-! ## Fractions -/

/-- A number below one is held by a float of the unit interval without its end. -/
theorem within_of_holds {x : Float} {q : ℚ} (held : Holds x q) (less : q < 1) :
    0 ≤ x ∧ x < 1 := by
  cases held with
  | zero unpacked =>
    rw [ExactFloats.le_iff_compare, lt_iff_compare, unpacked, unpack_zero, unpack_one]
    exact ⟨rfl, rfl⟩
  | normal k e positive bits range unpacked =>
    have small : e ≤ -53 := by
      by_contra great
      have long : 2 ^ 52 ≤ k := ((ExactFloats.bits_iff k positive).mp bits).1
      have one : (1 : ℚ) ≤ k * (2 : ℚ) ^ e := by
        calc (1 : ℚ) = (2 : ℚ) ^ 52 * (2 : ℚ) ^ (-52 : Int) := by norm_num
          _ ≤ k * (2 : ℚ) ^ e := by
            have : (2 : ℚ) ^ 52 ≤ k := by exact_mod_cast long
            have : (2 : ℚ) ^ (-52 : Int) ≤ (2 : ℚ) ^ e :=
              zpow_le_zpow_right₀ (by norm_num) (by omega)
            gcongr
      exact absurd less (not_lt.mpr one)
    have fraction := (fraction_iff x).mpr ⟨k, e, positive, unpacked, small⟩
    refine ⟨?_, fraction.2⟩
    rw [ExactFloats.le_iff_compare, unpacked, unpack_zero]
    rfl

/-- A hash falls within the unit interval. -/
theorem hashFraction_within (key property : String) :
    0 ≤ hashFraction key property ∧ hashFraction key property < 1 := by
  unfold hashFraction
  generalize Digest.Murmur3.hash 0 (Bytes.ofText key ++ Bytes.ofText property) = hash
  apply within_of_holds (holds_fraction hash)
  rw [div_lt_one (by norm_num)]
  exact_mod_cast hash.toNat_lt

/-- Chance gives fractions of the unit interval. -/
theorem chance_within (seed : UInt64) (index : Nat) :
    0 ≤ Chance.fraction seed index ∧ Chance.fraction seed index < 1 := by
  have unit (bits : BitVec 64) : 0 ≤ Chance.unit bits ∧ Chance.unit bits < 1 := by
    have short : (UInt64.ofBitVec (bits >>> 11)).toNat < 2 ^ 53 := by
      change (bits >>> 11).toNat < 2 ^ 53
      rw [BitVec.toNat_ushiftRight, Nat.shiftRight_eq_div_pow]
      have := bits.isLt
      omega
    have range : Holds 9007199254740992.0 9007199254740992 := by
      have power := ExactFloats.holds_power 9007199254740992.0 1 ⟨by decide, by decide⟩ rfl
      norm_num at power
      exact power
    have scaled (n : Nat) : (n : ℚ) / 9007199254740992 = n * (2 : ℚ) ^ (-53 : Int) := by
      norm_num
      ring
    apply within_of_holds ((ExactFloats.holds_word _ short).div range (by norm_num) ?_)
    · rw [div_lt_one (by norm_num)]
      exact_mod_cast short
    · rw [scaled]
      exact ExactFloats.representable_scaled _ (-53) short (by norm_num) (by norm_num)
  exact unit _

/-! ## The search -/

/-- A search that has not reached the threshold, and does reach it at the end, stops at an arm with
weight. -/
theorem firstReaching?_positive {threshold : Float} (weights : List Int32)
    (nonnegative : ∀ w ∈ weights, 0 ≤ w.toInt) (running : Int)
    (missed : ¬Float.ofInt running ≥ threshold)
    (reached : Float.ofInt (running + sum weights) ≥ threshold) :
    ∃ i, firstReaching? threshold running weights = some i ∧
      ∃ inside : i < weights.length, 0 < weights[i].toInt := by
  induction weights generalizing running with
  | nil =>
    rw [show sum [] = 0 from rfl, Int.add_zero] at reached
    exact absurd reached missed
  | cons w rest inductionHypothesis =>
    by_cases here : Float.ofInt (running + w.toInt) ≥ threshold
    · refine ⟨0, if_pos here, Nat.succ_pos _, ?_⟩
      have weight := nonnegative w List.mem_cons_self
      have some : w.toInt ≠ 0 := by
        intro none
        rw [none, Int.add_zero] at here
        exact missed here
      change 0 < w.toInt
      omega
    · rw [sum_cons, ← Int.add_assoc] at reached
      obtain ⟨i, found, inside, weight⟩ := inductionHypothesis
        (fun v member => nonnegative v (List.mem_cons_of_mem w member)) (running + w.toInt) here
        reached
      refine ⟨i + 1, ?_, Nat.succ_lt_succ inside, weight⟩
      simp only [firstReaching?, here, if_false, found, Option.map_some]

/-- A search for what is no number finds nothing. -/
theorem firstReaching?_none {threshold : Float}
    (notANumber : threshold.toModel.unpack = .notANumber) (weights : List Int32) (running : Int) :
    firstReaching? threshold running weights = none := by
  induction weights generalizing running with
  | nil => rfl
  | cons w rest inductionHypothesis =>
    have here : ¬Float.ofInt (running + w.toInt) ≥ threshold := by
      rw [ge_iff_le, ExactFloats.le_iff_compare, notANumber]
      simp [Float.Model.UnpackedFloat.compare]
    simp only [firstReaching?, here, if_false, inductionHypothesis, Option.map_none]

section

variable {α : Type} {s : Split α} (sound : s.Sound)

include sound in
/-- The total of a sound split is one at least, also as a float. -/
theorem Sound.one_le_total : 1 ≤ Float.ofInt (sum s.weights) := by
  have positive : 0 < sum s.weights := sound.total
  obtain ⟨n, isTotal⟩ := Int.eq_ofNat_of_zero_le positive.le
  rw [isTotal] at positive ⊢
  exact one_le_ofInt (by omega)

include sound in
/-- A fraction between zero and one falls on an arm with weight. -/
theorem Sound.picks_weight {fraction : Float} (within : 0 < fraction ∧ fraction < 1) :
    ∃ inside : pickIndex s.weights fraction < s.weights.length,
      0 < (s.weights[pickIndex s.weights fraction]).toInt := by
  obtain ⟨reached, positive⟩ := fraction_mul within sound.one_le_total
  have missed : ¬Float.ofInt 0 ≥ fraction * Float.ofInt (sum s.weights) := not_le_zero positive
  obtain ⟨i, found, inside, weight⟩ := firstReaching?_positive s.weights sound.nonnegative 0 missed
    (by rwa [Int.zero_add])
  have index : pickIndex s.weights fraction = i := by
    rw [pickIndex, found, Option.getD_some]
  subst index
  exact ⟨inside, weight⟩

include sound in
/-- The fraction zero falls on the first arm. -/
theorem Sound.picks_first {fraction : Float} (zero : 0 ≤ fraction ∧ ¬0 < fraction) :
    pickIndex s.weights fraction = 0 := by
  unfold pickIndex
  rcases mul_of_zero zero sound.one_le_total with none | notANumber
  · cases weights : s.weights with
    | nil => rfl
    | cons w rest =>
      rw [weights] at none
      have weight := sound.nonnegative w (by simp [weights])
      obtain ⟨n, isWeight⟩ := Int.eq_ofNat_of_zero_le weight
      have here : Float.ofInt (0 + w.toInt) ≥ fraction * Float.ofInt (sum (w :: rest)) := by
        rw [Int.zero_add, isWeight]
        exact zero_le_ofInt none n
      rw [firstReaching?, if_pos here]
      rfl
  · rw [firstReaching?_none notANumber]
    rfl

end

/-- A sound split always picks one of its arms. The arm has weight, unless the fraction is zero,
which falls on the first arm whatever its weight. The fraction is within the unit interval, be it
given by a hash or by chance. -/
theorem weight_unless_fraction_zero (s : Split Value) (valid : s.fault? = none) (key : String)
    (lookup : Lookup) (chance : Float) (within : 0 ≤ chance ∧ chance < 1) :
    ∃ index arm, s.pick? key lookup chance = some (index, arm) ∧ s.arms[index]? = some arm ∧
      (0 ≤ s.fraction key lookup chance ∧ s.fraction key lookup chance < 1) ∧
      (0 < s.fraction key lookup chance → 0 < arm.weight) ∧
      (¬0 < s.fraction key lookup chance → index = 0) := by
  have sound : s.Sound := s.fault_none_iff.mp valid
  have length : s.weights.length = s.arms.length := List.length_map _
  have unit : 0 ≤ s.fraction key lookup chance ∧ s.fraction key lookup chance < 1 := by
    unfold fraction
    cases s.hashBy >>= lookup with
    | none => exact within
    | some property => exact hashFraction_within key property.rawText
  have inside : pickIndex s.weights (s.fraction key lookup chance) < s.arms.length := by
    rw [← length]
    apply pickIndex_lt
    simpa [weights] using sound.arms
  have held := List.getElem?_eq_getElem inside
  refine ⟨_, _, ?_, held, unit, ?_, ?_⟩
  · rw [pick?, held]
    rfl
  · intro positive
    obtain ⟨_, weight⟩ := sound.picks_weight ⟨positive, unit.2⟩
    rw [Int32.lt_iff_toInt_lt]
    simpa [weights] using weight
  · intro notPositive
    exact sound.picks_first ⟨unit.1, notPositive⟩

/-- A split that serves the old value to no one any more. -/
def retired : Split Value where
  arms := [⟨0, { payload := .text "old" }⟩, ⟨1, { payload := .text "new" }⟩]
  hashBy := some "user.id"

/-- Chance gives no one the old value, where it does not give zero. -/
theorem retired_not_by_chance :
    retired.fault? = none ∧ ∃ index arm,
      retired.pick? "flag" (fun _ => none) (Chance.fraction 7 0) = some (index, arm) ∧
        0 < arm.weight := by
  have valid : retired.fault? = none := by decide
  have positive : 0 < Chance.fraction 7 0 := by decide +kernel
  obtain ⟨index, arm, picked, -, -, weight, -⟩ := weight_unless_fraction_zero retired valid "flag"
    (fun _ => none) (Chance.fraction 7 0) (chance_within 7 0)
  exact ⟨valid, index, arm, picked, weight positive⟩

/-- A user whose hash is zero. -/
def firstUser : Lookup := fun name =>
  if name = "user.id" then some { payload := .text "user-765cl24" } else none

/-- A user whose hash is zero still gets the old value. -/
theorem retired_by_hash :
    ¬∀ (s : Split Value) (key : String) (lookup : Lookup) (chance : Float), s.fault? = none →
      0 ≤ chance ∧ chance < 1 →
        ∃ index arm, s.pick? key lookup chance = some (index, arm) ∧ 0 < arm.weight := by
  intro always
  have picked : retired.pick? "flag" firstUser 0 =
      some (0, ⟨0, { payload := .text "old" }⟩) := rfl
  obtain ⟨index, arm, other, weight⟩ := always retired "flag" firstUser 0 (by decide) (by decide)
  rw [picked] at other
  obtain ⟨rfl, rfl⟩ := Prod.mk.inj (Option.some.inj other)
  contradiction

end LiveConfig.Split
