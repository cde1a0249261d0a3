import LiveConfig.Yaml.Node

/-!
# Equality of nodes

Whether two nodes are equal can be decided, though nodes nest in lists and in entries. This is not
their equality as keys of a mapping, for which the order of entries does not count and a number that
is none equals itself.
-/

namespace LiveConfig.Yaml.Node

mutual

/-- Whether two nodes are the same, entry by entry. -/
def identical : Node → Node → Bool
  | .null, .null => true
  | .bool a, .bool b => a == b
  | .number m, .number n => decide (m = n)
  | .text s, .text t => s == t
  | .sequence xs, .sequence ys => identicalItems xs ys
  | .mapping xs, .mapping ys => identicalEntries xs ys
  | .tagged s x, .tagged t y => s == t && x.identical y
  | _, _ => false

/-- Whether two lists of nodes are the same. -/
def identicalItems : List Node → List Node → Bool
  | [], [] => true
  | x :: xs, y :: ys => x.identical y && identicalItems xs ys
  | _, _ => false

/-- Whether the entries of two mappings are the same, in order. -/
def identicalEntries : List (Node × Node) → List (Node × Node) → Bool
  | [], [] => true
  | (k, v) :: xs, (k', v') :: ys => k.identical k' && v.identical v' && identicalEntries xs ys
  | _, _ => false

end

mutual

/-- The comparison of nodes is equality. -/
theorem identical_iff : (x y : Node) → (x.identical y = true ↔ x = y)
  | .null, y => by cases y <;> simp [identical]
  | .bool _, y => by cases y <;> simp [identical]
  | .number _, y => by cases y <;> simp [identical]
  | .text _, y => by cases y <;> simp [identical]
  | .sequence xs, y => by
    cases y with
    | sequence ys => simp [identical, identicalItems_iff xs ys]
    | _ => simp [identical]
  | .mapping xs, y => by
    cases y with
    | mapping ys => simp [identical, identicalEntries_iff xs ys]
    | _ => simp [identical]
  | .tagged _ x, y => by
    cases y with
    | tagged _ y => simp [identical, identical_iff x y]
    | _ => simp [identical]

/-- The comparison of lists of nodes is equality. -/
theorem identicalItems_iff : (xs ys : List Node) → (identicalItems xs ys = true ↔ xs = ys)
  | [], ys => by cases ys <;> simp [identicalItems]
  | x :: xs, ys => by
    cases ys with
    | nil => simp [identicalItems]
    | cons y ys => simp [identicalItems, identical_iff x y, identicalItems_iff xs ys]

/-- The comparison of entries is equality. -/
theorem identicalEntries_iff :
    (xs ys : List (Node × Node)) → (identicalEntries xs ys = true ↔ xs = ys)
  | [], ys => by cases ys <;> simp [identicalEntries]
  | (k, v) :: xs, ys => by
    cases ys with
    | nil => simp [identicalEntries]
    | cons entry ys =>
      obtain ⟨k', v'⟩ := entry
      simp [identicalEntries, identical_iff k k', identical_iff v v', identicalEntries_iff xs ys,
        and_assoc]

end

instance : DecidableEq Node := fun x y => decidable_of_iff _ (identical_iff x y)

end LiveConfig.Yaml.Node
