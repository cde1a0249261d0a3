import LiveConfig.Digest.Murmur3

/-!
# Weighted splits

A split shares a population out among arms in proportion to their weights. A member of the
population is a fraction of the total; where the split is hashed, the fraction is a hash of the
config's key and of the member's property, scaled to the unit interval.
-/

namespace LiveConfig

/-- One arm of a split. -/
structure Arm (α : Type) where
  weight : Int32
  value : α
deriving Repr

/-- Arms, and the property that decides between them if there is one. -/
structure Split (α : Type) where
  arms : List (Arm α)
  hashBy : Option String := none
deriving Repr

namespace Split

/-- The weights of the arms. -/
def weights {α : Type} (s : Split α) : List Int32 :=
  s.arms.map Arm.weight

/-- The sum of weights. -/
def sum (weights : List Int32) : Int :=
  weights.foldl (fun total weight => total + weight.toInt) 0

/-- The sum of all weights of a split. -/
def total {α : Type} (s : Split α) : Int :=
  sum s.weights

/-- Why a split cannot be used. -/
inductive Fault where
  | noArms
  | negativeWeight
  | noWeight
deriving DecidableEq, Repr

/-- What is wrong with a split, if anything is. -/
def fault? {α : Type} (s : Split α) : Option Fault :=
  if s.arms.isEmpty then some .noArms
  else if s.weights.any (· < 0) then some .negativeWeight
  else if s.total ≤ 0 then some .noWeight
  else none

/-- The fraction of the unit interval at which a key and a property fall. -/
def hashFraction (key property : String) : Float :=
  (Digest.Murmur3.hash 0 (Bytes.ofText key ++ Bytes.ofText property)).toFloat / 4294967296.0

/-- The first index at which the running sum of weights reaches the threshold. -/
def firstReaching? (threshold : Float) (running : Int) : List Int32 → Option Nat
  | [] => none
  | w :: rest =>
    let running := running + w.toInt
    if Float.ofInt running ≥ threshold then some 0
    else (firstReaching? threshold running rest).map (· + 1)

/-- The index that a fraction of the total falls on; the first one if rounding leaves none. -/
def pickIndex (weights : List Int32) (fraction : Float) : Nat :=
  (firstReaching? (fraction * Float.ofInt (sum weights)) 0 weights).getD 0

end Split

end LiveConfig
