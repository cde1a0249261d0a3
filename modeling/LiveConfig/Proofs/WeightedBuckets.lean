import LiveConfig.Proofs.ExactFloats
import LiveConfig.Proofs.WellFormedValues
import LiveConfig.Resolution

/-!
# Weighted buckets

A split that hashes gives each arm an interval of hashes. The arm of a hash is the first one up to
which the weights make up the hash's share of their total. The comparison is made on floats. While
the total takes no more than 21 bits, the share of a hash of 32 bits takes no more than the 53 bits
of a float, so it is the comparison of the exact numbers.

`bucket_lt_iff` says by whole numbers which hashes fall before an arm. All else follows from it:
that arms come in the order of hashes, and how many hashes an arm gets, which differs from its part
of all hashes by one at most. Those are the hashes before the next arm without the ones before the
arm. Both are counted by a quotient, rounded down, and one more for the hash 0, unless the arm is
the first one: nothing falls before that, and the hash 0 falls on it whatever its weight.
-/

namespace LiveConfig.Split

open ExactFloats (Holds Representable)

/-- The index of the arm that a hash falls on. -/
def bucket (weights : List Int32) (hash : UInt32) : Nat :=
  pickIndex weights (hash.toFloat / 4294967296.0)

/-- The weight of the first arms, so many of them. -/
def below (weights : List Int32) (count : Nat) : Int :=
  sum (weights.take count)

/-- Weights are summed from the front. -/
theorem sum_cons (w : Int32) (rest : List Int32) : sum (w :: rest) = w.toInt + sum rest := by
  have total (weights : List Int32) : sum weights = (weights.map Int32.toInt).sum := by
    rw [sum, List.sum_eq_foldl, List.foldl_map]
  rw [total, total, List.map_cons, List.sum_cons]

/-- No arms have no weight. -/
theorem below_zero (weights : List Int32) : below weights 0 = 0 :=
  rfl

/-- The weight of the first arms begins with that of the first one. -/
theorem below_cons (w : Int32) (rest : List Int32) (count : Nat) :
    below (w :: rest) (count + 1) = w.toInt + below rest count := by
  rw [below, List.take_succ_cons, sum_cons]
  rfl

/-- All arms have the weight of all. -/
theorem below_length (weights : List Int32) : below weights weights.length = sum weights := by
  rw [below, List.take_length]

/-- Each arm adds its weight. -/
theorem below_succ (weights : List Int32) (i : Nat) (inside : i < weights.length) :
    below weights (i + 1) = below weights i + weights[i].toInt := by
  induction weights generalizing i with
  | nil => contradiction
  | cons w rest inductionHypothesis =>
    cases i with
    | zero => simp [below_cons, below_zero]
    | succ i =>
      have inRest : i < rest.length := Nat.lt_of_succ_lt_succ inside
      rw [below_cons, below_cons, inductionHypothesis i inRest, List.getElem_cons_succ]
      omega

/-- Arms without weights below zero never make the weight less. -/
theorem below_mono (weights : List Int32) (nonnegative : ∀ w ∈ weights, 0 ≤ w.toInt) {i j : Nat}
    (ordered : i ≤ j) (inside : j ≤ weights.length) : below weights i ≤ below weights j := by
  induction j, ordered using Nat.le_induction with
  | base => exact Int.le_refl _
  | succ j _ inductionHypothesis =>
    have here : j < weights.length := inside
    have weight := nonnegative weights[j] (List.getElem_mem here)
    have before := inductionHypothesis here.le
    rw [below_succ weights j here]
    omega

/-- Weights that are not below zero have no sum below zero. -/
theorem sum_nonneg (weights : List Int32) (nonnegative : ∀ w ∈ weights, 0 ≤ w.toInt) :
    0 ≤ sum weights := by
  have whole := below_mono weights nonnegative (Nat.zero_le weights.length) (Nat.le_refl _)
  rwa [below_zero, below_length] at whole

/-- Where the weights reach a number that a float holds, a search for the float finds the least
index up to which they do. -/
theorem firstReaching?_least {threshold : Float} {q : ℚ} (held : Holds threshold q)
    (weights : List Int32) (nonnegative : ∀ w ∈ weights, 0 ≤ w.toInt) (running : Nat)
    (short : running + sum weights < 9007199254740992)
    (reached : q ≤ ((running + sum weights : Int) : ℚ)) (nonempty : weights ≠ []) :
    ∃ i, firstReaching? threshold running weights = some i ∧ i < weights.length ∧
      q ≤ ((running + below weights (i + 1) : Int) : ℚ) ∧
      ∀ j < i, ((running + below weights (j + 1) : Int) : ℚ) < q := by
  induction weights generalizing running with
  | nil => exact absurd rfl nonempty
  | cons w rest inductionHypothesis =>
    have weightsOfRest : ∀ v ∈ rest, 0 ≤ v.toInt :=
      fun v member => nonnegative v (List.mem_cons_of_mem w member)
    have total := sum_nonneg rest weightsOfRest
    obtain ⟨weight, isWeight⟩ := Int.eq_ofNat_of_zero_le (nonnegative w List.mem_cons_self)
    have next : (running : Int) + w.toInt = ((running + weight : Nat) : Int) := by omega
    rw [sum_cons] at short reached
    have compared : Float.ofInt (running + w.toInt) ≥ threshold ↔
        q ≤ ((running + w.toInt : Int) : ℚ) := by
      rw [next]
      exact held.le_iff (ExactFloats.holds_ofInt (running + weight) (by omega))
    by_cases here : q ≤ ((running + w.toInt : Int) : ℚ)
    · refine ⟨0, ?_, Nat.succ_pos _, ?_, fun j less => absurd less (Nat.not_lt_zero j)⟩
      · simp only [firstReaching?, compared.mpr here, if_true]
      · simpa [below_cons, below_zero] using here
    · have restNonempty : rest ≠ [] := by
        rintro rfl
        exact here (by simpa [sum] using reached)
      rw [← Int.add_assoc, next] at short reached
      obtain ⟨i, found, inside, reaches, earlier⟩ := inductionHypothesis weightsOfRest
        (running + weight) short reached restNonempty
      refine ⟨i + 1, ?_, Nat.succ_lt_succ inside, ?_, ?_⟩
      · have missed := compared.not.mpr here
        rw [next] at missed
        simp only [firstReaching?, next, missed, if_false, found, Option.map_some]
      · rwa [below_cons, ← Int.add_assoc, next]
      · intro j less
        rw [below_cons, ← Int.add_assoc, next]
        cases j with
        | zero =>
          rw [below_zero, Int.add_zero, ← next]
          exact not_le.mp here
        | succ j => exact earlier j (Nat.lt_of_succ_lt_succ less)

/-- To divide by the number of all hashes is to change the exponent. -/
theorem over_hashes (n : Nat) : (n : ℚ) / 4294967296 = n * (2 : ℚ) ^ (-32 : Int) := by
  norm_num
  ring

/-- A hash divided by the number of all hashes is exact. -/
theorem holds_fraction (hash : UInt32) :
    Holds (hash.toFloat / 4294967296.0) (hash.toNat / 4294967296) := by
  have range : Holds 4294967296.0 4294967296 := by
    have power := ExactFloats.holds_power 4294967296.0 (-20) ⟨by decide, by decide⟩ rfl
    norm_num at power
    exact power
  have short : hash.toNat < 4294967296 := hash.toNat_lt
  apply (ExactFloats.holds_toFloat hash).div range (by norm_num)
  rw [over_hashes]
  exact ExactFloats.representable_scaled hash.toNat (-32) (by omega) (by norm_num) (by norm_num)

/-- The float that a hash is compared by holds the share of the hash in the total. -/
theorem holds_share (hash : UInt32) (total : Nat) (small : total ≤ 2097152) :
    Holds (hash.toFloat / 4294967296.0 * Float.ofInt total)
      ((hash.toNat * total : Nat) / 4294967296) := by
  have short : hash.toNat < 4294967296 := hash.toNat_lt
  have product : hash.toNat * total < 2 ^ 53 := by
    calc hash.toNat * total ≤ 4294967295 * 2097152 := Nat.mul_le_mul (by omega) small
      _ < 2 ^ 53 := by norm_num
  have written : (hash.toNat : ℚ) / 4294967296 * total =
      (hash.toNat * total : Nat) / 4294967296 := by
    push_cast
    ring
  have whole := ExactFloats.holds_ofInt total (by omega)
  rw [← written]
  apply (holds_fraction hash).mul whole
  rw [written, over_hashes]
  exact ExactFloats.representable_scaled _ (-32) product (by norm_num) (by norm_num)

/-- The share of a hash is compared with a weight by whole numbers. -/
theorem share_le_iff (share : Nat) (weight : Int) :
    (share : ℚ) / 4294967296 ≤ (weight : ℚ) ↔ (share : Int) ≤ weight * 4294967296 := by
  rw [div_le_iff₀ (by norm_num)]
  exact_mod_cast Iff.rfl

section

variable {α : Type} (s : Split α) (sound : s.Sound) (small : s.total ≤ 2097152)

/-- A sound split has no weights below zero. -/
theorem Sound.nonnegative {s : Split α} (sound : s.Sound) : ∀ w ∈ s.weights, 0 ≤ w.toInt := by
  intro w member
  obtain ⟨arm, among, rfl⟩ := List.mem_map.mp member
  simpa [Int32.le_iff_toInt_le] using sound.weights arm among

include sound small in
/-- The least index up to which the weights reach the share of a hash is found, and it is the bucket
of the hash. -/
theorem bucket_least (hash : UInt32) :
    ∃ i, firstReaching? (hash.toFloat / 4294967296.0 * Float.ofInt s.total) 0 s.weights = some i ∧
      bucket s.weights hash = i ∧ i < s.weights.length ∧
      hash.toNat * s.total ≤ below s.weights (i + 1) * 4294967296 ∧
      ∀ j < i, below s.weights (j + 1) * 4294967296 < hash.toNat * s.total := by
  obtain ⟨total, isTotal⟩ := Int.eq_ofNat_of_zero_le sound.total.le
  have sumTotal : sum s.weights = total := isTotal
  have bounded : hash.toNat < 4294967296 := hash.toNat_lt
  have held := holds_share hash total (by omega)
  have nonempty : s.weights ≠ [] := by
    intro none
    exact sound.arms (List.map_eq_nil_iff.mp none)
  have reached : ((hash.toNat * total : Nat) : ℚ) / 4294967296 ≤
      (((0 : Nat) + sum s.weights : Int) : ℚ) := by
    rw [share_le_iff, sumTotal]
    have := Nat.mul_le_mul_right total bounded.le
    push_cast
    omega
  obtain ⟨i, found, inside, reaches, earlier⟩ :=
    firstReaching?_least held s.weights sound.nonnegative 0 (by omega) reached nonempty
  simp only [Int.natCast_zero, Int.zero_add] at found reaches earlier
  rw [isTotal]
  refine ⟨i, found, ?_, inside, ?_, ?_⟩
  · rw [bucket, pickIndex, sumTotal, found, Option.getD_some]
  · exact_mod_cast (share_le_iff _ _).mp reaches
  · intro j less
    have before := earlier j less
    rw [← not_le, share_le_iff, not_le] at before
    exact_mod_cast before

include sound small in
/-- A hash falls before an arm exactly if the weights before the arm reach the hash's share. Before
the first arm there is no weight, and none falls there. -/
theorem bucket_lt_iff (hash : UInt32) (i : Nat) (inside : i ≤ s.weights.length) :
    bucket s.weights hash < i ↔
      0 < i ∧ hash.toNat * s.total ≤ below s.weights i * 4294967296 := by
  obtain ⟨b, -, isBucket, -, reaches, earlier⟩ := s.bucket_least sound small hash
  rw [isBucket]
  constructor
  · intro less
    have grown := below_mono s.weights sound.nonnegative (show b + 1 ≤ i from less) inside
    exact ⟨Nat.zero_lt_of_lt less, by omega⟩
  · rintro ⟨positive, reached⟩
    by_contra notLess
    have before := earlier (i - 1) (by omega)
    rw [Nat.sub_add_cancel positive] at before
    omega

include sound small in
/-- A greater hash never falls on an earlier arm. -/
theorem bucket_mono {hash other : UInt32} (ordered : hash ≤ other) :
    bucket s.weights hash ≤ bucket s.weights other := by
  obtain ⟨b, -, isBucket, inside, reaches, -⟩ := s.bucket_least sound small other
  rw [isBucket, ← Nat.lt_succ_iff, s.bucket_lt_iff sound small hash (b + 1) inside]
  refine ⟨Nat.succ_pos b, ?_⟩
  have positive := sound.total
  have shares : hash.toNat * s.total ≤ other.toNat * s.total := by
    apply Int.mul_le_mul_of_nonneg_right _ positive.le
    exact_mod_cast UInt32.le_iff_toNat_le.mp ordered
  exact shares.trans reaches

/-- There are as many hashes below a number as the number says. -/
theorem ncard_hashes (count : Nat) (short : count ≤ 4294967296) :
    {hash : UInt32 | hash.toNat < count}.ncard = count := by
  have among : Set.Iio count ⊆ Set.range UInt32.toNat := by
    intro n less
    have bounded : n < 4294967296 := lt_of_lt_of_le less short
    exact ⟨UInt32.ofNat n, UInt32.toNat_ofNat_of_lt bounded⟩
  have preimage : {hash : UInt32 | hash.toNat < count} =
      Set.preimage UInt32.toNat (Set.Iio count) := rfl
  rw [preimage, Set.ncard_preimage_of_injective_subset_range (fun _ _ => UInt32.toNat_inj.mp) among,
    ← Finset.coe_range, Set.ncard_coe_finset, Finset.card_range]

include sound small in
/-- The hashes before an arm are at least as many as the part of all hashes that the weights before
it make up, and less than two more. -/
theorem ncard_before (i : Nat) (inside : i ≤ s.weights.length) :
    (below s.weights i : ℚ) * 4294967296 / s.total ≤
        ({hash | bucket s.weights hash < i} : Set UInt32).ncard ∧
      ({hash | bucket s.weights hash < i} : Set UInt32).ncard ≤
        (below s.weights i : ℚ) * 4294967296 / s.total + 1 := by
  rcases Nat.eq_zero_or_pos i with rfl | positive
  · have none : ({hash | bucket s.weights hash < 0} : Set UInt32) = ∅ := by
      simp
    rw [none, Set.ncard_empty, below_zero]
    simp
  · have total := sound.total
    have lower : 0 ≤ below s.weights i :=
      below_mono s.weights sound.nonnegative (Nat.zero_le i) inside
    have upper : below s.weights i ≤ s.total := by
      have whole := below_mono s.weights sound.nonnegative inside (Nat.le_refl _)
      rwa [below_length] at whole
    -- The last of these hashes is the quotient, unless the quotient is no hash.
    obtain ⟨last, isLast⟩ : ∃ last, last = below s.weights i * 4294967296 / s.total := ⟨_, rfl⟩
    have low : last * s.total ≤ below s.weights i * 4294967296 := by
      rw [isLast]
      exact Int.ediv_mul_le _ total.ne'
    have high : below s.weights i * 4294967296 < (last + 1) * s.total := by
      rw [isLast]
      exact Int.lt_ediv_add_one_mul_self _ total
    have nonnegative : 0 ≤ last := by
      rw [isLast]
      exact Int.ediv_nonneg (by omega) total.le
    have count : ({hash | bucket s.weights hash < i} : Set UInt32).ncard =
        (min 4294967296 (last + 1)).toNat := by
      rw [← ncard_hashes (min 4294967296 (last + 1)).toNat (by omega)]
      congr 1
      ext hash
      have bounded : hash.toNat < 4294967296 := hash.toNat_lt
      have share : hash.toNat * s.total ≤ below s.weights i * 4294967296 ↔
          (hash.toNat : Int) ≤ last := by
        rw [isLast, Int.le_ediv_iff_mul_le total]
      simp only [Set.mem_ofPred_eq, s.bucket_lt_iff sound small hash i inside, share]
      omega
    have counted : ((min 4294967296 (last + 1)).toNat : ℚ) = (min 4294967296 (last + 1) : Int) := by
      exact_mod_cast Int.toNat_of_nonneg (by omega)
    have divisor : (0 : ℚ) < s.total := by exact_mod_cast total
    rw [count, counted]
    constructor
    · rw [div_le_iff₀ divisor]
      have whole : below s.weights i * 4294967296 ≤ min 4294967296 (last + 1) * s.total := by
        rcases min_choice 4294967296 (last + 1) with all | some
        · rw [all]
          omega
        · rw [some]
          exact high.le
      exact_mod_cast whole
    · have part : (last : ℚ) ≤ below s.weights i * 4294967296 / s.total := by
        rw [le_div_iff₀ divisor]
        exact_mod_cast low
      have most : (min 4294967296 (last + 1) : Int) ≤ last + 1 := min_le_right _ _
      have mostCast : ((min 4294967296 (last + 1) : Int) : ℚ) ≤ last + 1 := by exact_mod_cast most
      linarith

include sound small in
/-- An arm gets its part of all hashes, but for one hash at most. -/
theorem ncard_bucket (i : Nat) (inside : i < s.weights.length) :
    |(({hash | bucket s.weights hash = i} : Set UInt32).ncard : ℚ) -
        s.weights[i].toInt * 4294967296 / s.total| ≤ 1 := by
  obtain ⟨lower, upper⟩ := s.ncard_before sound small i inside.le
  obtain ⟨lowerNext, upperNext⟩ := s.ncard_before sound small (i + 1) inside
  have finite : Finite UInt32 := Finite.of_injective UInt32.toFin fun _ _ => UInt32.toFin_inj.mp
  have split : ({hash | bucket s.weights hash < i + 1} : Set UInt32) =
      {hash | bucket s.weights hash = i} ∪ {hash | bucket s.weights hash < i} := by
    ext hash
    simp only [Set.mem_ofPred_eq, Set.mem_union]
    omega
  have apart : Disjoint ({hash | bucket s.weights hash = i} : Set UInt32)
      {hash | bucket s.weights hash < i} := by
    rw [Set.disjoint_left]
    intro hash here before
    simp only [Set.mem_ofPred_eq] at here before
    omega
  rw [split, Set.ncard_union_eq apart, below_succ s.weights i inside] at lowerNext upperNext
  push_cast at lowerNext upperNext
  rw [add_mul, add_div] at lowerNext upperNext
  rw [abs_le]
  constructor <;> linarith

end

/-- Where a property decides a split, an arm is picked, the one that the hash of the key and the
property falls on. -/
theorem pick?_hashed (s : Split Value) (sound : s.Sound) (small : s.total ≤ 2097152) (key : String)
    (lookup : Lookup) (chance : Float) (property : Value)
    (known : s.hashBy >>= lookup = some property) :
    ∃ arm, s.pick? key lookup chance = some (bucket s.weights
      (Digest.Murmur3.hash 0 (Bytes.ofText key ++ Bytes.ofText property.rawText)), arm) := by
  obtain ⟨i, -, isBucket, inside, -⟩ := s.bucket_least sound small
    (Digest.Murmur3.hash 0 (Bytes.ofText key ++ Bytes.ofText property.rawText))
  have length : s.weights.length = s.arms.length := List.length_map _
  have index : pickIndex s.weights (s.fraction key lookup chance) = i := by
    rw [← isBucket, fraction, known]
    rfl
  have held : s.arms[i]? = some (s.arms[i]) := List.getElem?_eq_getElem (length ▸ inside)
  refine ⟨s.arms[i], ?_⟩
  rw [pick?, index, held, isBucket, Option.map_some]

/-- In a split without fault whose weights total 21 bits at most, a hash of 32 bits falls on the
first arm up to which the weights reach its share. There always is one, so the search never gives
up; greater hashes never fall on earlier arms; and an arm gets its part of all hashes, but for one
hash at most. -/
theorem hashes_shared_by_weight {α : Type} (s : Split α) (valid : s.fault? = none)
    (small : s.total ≤ 2097152) :
    (∀ hash : UInt32, ∃ i,
      IsLeast {i | i < s.arms.length ∧
        hash.toNat * s.total ≤ sum (s.weights.take (i + 1)) * 4294967296} i ∧
      firstReaching? (hash.toFloat / 4294967296.0 * Float.ofInt s.total) 0 s.weights = some i ∧
      pickIndex s.weights (hash.toFloat / 4294967296.0) = i) ∧
    (∀ hash other : UInt32, hash ≤ other → bucket s.weights hash ≤ bucket s.weights other) ∧
    ∀ (i : Nat) (inside : i < s.arms.length),
      |(({hash | bucket s.weights hash = i} : Set UInt32).ncard : ℚ) -
        s.arms[i].weight.toInt * 4294967296 / s.total| ≤ 1 := by
  have sound : s.Sound := s.fault_none_iff.mp valid
  have length : s.weights.length = s.arms.length := List.length_map _
  refine ⟨?_, ?_, ?_⟩
  · intro hash
    obtain ⟨i, found, isBucket, inside, reaches, earlier⟩ := s.bucket_least sound small hash
    refine ⟨i, ⟨⟨length ▸ inside, reaches⟩, ?_⟩, found, isBucket⟩
    rintro j ⟨-, reached⟩
    by_contra less
    have before := earlier j (not_le.mp less)
    exact absurd reached (not_le.mpr before)
  · intro hash other ordered
    exact s.bucket_mono sound small ordered
  · intro i inside
    have share := s.ncard_bucket sound small i (length ▸ inside)
    simpa only [weights, List.getElem_map] using share

/-- A split with an arm that has no weight. -/
def lopsided : Split String where
  arms := [⟨0, "none"⟩, ⟨3, "some"⟩, ⟨5, "more"⟩]

/-- The arm without weight gets one hash, which is the first one, and the next arm gets three
eighths of all hashes, but for one at most. -/
theorem lopsided_shared :
    lopsided.fault? = none ∧ lopsided.total ≤ 2097152 ∧
    bucket lopsided.weights 0 = 0 ∧ bucket lopsided.weights 1 = 1 ∧
    |(({hash | bucket lopsided.weights hash = 0} : Set UInt32).ncard : ℚ) - 0| ≤ 1 ∧
    |(({hash | bucket lopsided.weights hash = 1} : Set UInt32).ncard : ℚ) - 1610612736| ≤ 1 := by
  have valid : lopsided.fault? = none := by decide
  have small : lopsided.total ≤ 2097152 := by decide
  obtain ⟨-, -, shares⟩ := hashes_shared_by_weight lopsided valid small
  have first := shares 0 (by decide)
  have second := shares 1 (by decide)
  have total : lopsided.total = 8 := rfl
  have none : lopsided.arms[0].weight.toInt = 0 := rfl
  have some : lopsided.arms[1].weight.toInt = 3 := rfl
  rw [none, total] at first
  rw [some, total] at second
  norm_num at first second
  refine ⟨valid, small, rfl, rfl, ?_, second⟩
  simpa using first

end LiveConfig.Split
