import Std.Data.ExtTreeMap

/-!
# Tables made of lists

A table made of a list of keyed entries holds the last entry of each key and nothing else, and a
table that is listed in any order and made again is the same table. Its keys are listed in ascending
order, each once.
-/

namespace LiveConfig.KeyedTable

open Std (ExtTreeMap)

variable {β : Type}

/-- A table of a list holds, for a key, the last entry of the key. -/
theorem getElem?_ofList_eq (entries : List (String × β)) (key : String) :
    (ExtTreeMap.ofList entries)[key]? =
      (entries.filter (·.1 == key)).getLast?.map Prod.snd := by
  rw [ExtTreeMap.ofList_eq_insertMany_empty, ExtTreeMap.getElem?_insertMany_list,
    ExtTreeMap.getElem?_empty, Option.or_none, List.findSomeRev?_eq_findSome?_reverse,
    List.getLast?_eq_head?_reverse, ← List.filter_reverse, List.head?_filter]
  induction entries.reverse with
  | nil => rfl
  | cons entry rest inductionHypothesis =>
    obtain ⟨name, b⟩ := entry
    rw [List.findSome?_cons, List.find?_cons, inductionHypothesis]
    by_cases same : name = key
    · simp [same]
    · have different : compare name key ≠ .eq := fun equal =>
        same (Std.LawfulEqCmp.eq_of_compare equal)
      have unequal : (name == key) = false := beq_eq_false_iff_ne.mpr same
      simp [different, unequal]

/-- What a table of a list holds stands in the list. -/
theorem mem_of_getElem?_ofList (entries : List (String × β)) (key : String) (b : β)
    (held : (ExtTreeMap.ofList entries)[key]? = some b) : (key, b) ∈ entries := by
  rw [getElem?_ofList_eq, Option.map_eq_some_iff] at held
  obtain ⟨⟨name, b⟩, last, rfl⟩ := held
  obtain ⟨member, same⟩ := List.mem_filter.mp (List.mem_of_getLast? last)
  obtain rfl := eq_of_beq same
  exact member

/-- A table that is listed in any order and made again is the same. -/
theorem ofList_of_perm (table : ExtTreeMap String β) (entries : List (String × β))
    (same : entries.Perm table.toList) : ExtTreeMap.ofList entries = table := by
  have distinct : entries.Pairwise fun a b => ¬compare a.1 b.1 = .eq := by
    refine (same.pairwise_iff ?_).mpr ExtTreeMap.distinct_keys_toList
    intro a b different equal
    exact different (Std.OrientedCmp.eq_symm equal)
  apply ExtTreeMap.ext_getElem?
  intro key
  cases held : table[key]? with
  | some b =>
    have member : (key, b) ∈ entries :=
      same.mem_iff.mpr (ExtTreeMap.mem_toList_iff_getElem?_eq_some.mpr held)
    exact ExtTreeMap.getElem?_ofList_of_mem Std.ReflCmp.compare_self distinct member
  | none =>
    cases remade : (ExtTreeMap.ofList entries)[key]? with
    | none => rfl
    | some b =>
      have member := same.mem_iff.mp (mem_of_getElem?_ofList entries key b remade)
      rw [ExtTreeMap.mem_toList_iff_getElem?_eq_some, held] at member
      contradiction

/-- The keys of a table ascend strictly, so none occurs twice. -/
theorem keys_pairwise_lt (table : ExtTreeMap String β) : table.keys.Pairwise (· < ·) := by
  refine ExtTreeMap.ordered_keys.imp ?_
  intro a b before
  exact compareOfLessAndEq_eq_lt.mp before

/-- The keys of a table are those that it holds something for. -/
theorem mem_keys_iff_isSome (table : ExtTreeMap String β) (key : String) :
    key ∈ table.keys ↔ table[key]?.isSome := by
  rw [ExtTreeMap.mem_keys, ExtTreeMap.isSome_getElem?_iff_mem]

/-- Tables are told apart by what a one-to-one view shows of their entries. -/
theorem map_injective {γ : Type} {view : β → γ} (apart : Function.Injective view) :
    Function.Injective fun table : ExtTreeMap String β => table.map fun _ b => view b := by
  intro table other same
  apply ExtTreeMap.ext_getElem?
  intro key
  have here := congrArg (fun shown : ExtTreeMap String γ => shown[key]?) same
  simp only [ExtTreeMap.getElem?_map] at here
  exact Option.map_injective apart here

end LiveConfig.KeyedTable
