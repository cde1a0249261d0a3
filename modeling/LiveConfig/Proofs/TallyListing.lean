import LiveConfig.Telemetry.Summary
import Mathlib.Data.List.Nodup
import Mathlib.Data.String.Basic

/-!
# Tallies and their listing

Counts stand in two levels, by subject and under it by branch. Seen as one table by both, counting
changes one entry and no other. No subject is kept without a branch and no branch with a count of
zero, so the listing in a report has exactly the entries of the table: none is left out, none occurs
twice, and the subjects ascend by key and number of kind.
-/

namespace LiveConfig.Telemetry

/-- Subjects that are ordered alike are equal. -/
instance : Std.LawfulEqCmp Subject.order where
  eq_of_compare := by
    intro a b same
    obtain ⟨keys, kinds⟩ := Ordering.then_eq_eq.mp same
    have key : a.key = b.key := Std.LawfulEqOrd.eq_of_compare keys
    have number : a.kind.number = b.kind.number := Std.LawfulEqOrd.eq_of_compare kinds
    have kind : a.kind = b.kind := by
      rw [← Kind.ofNumber_number a.kind, number, Kind.ofNumber_number]
    cases a
    cases b
    simp_all

/-- Branches that are ordered alike are equal. -/
instance : Std.LawfulEqCmp Branch.order where
  eq_of_compare := by
    intro a b same
    simp only [Branch.order, compareLex_eq_eq] at same
    obtain ⟨configs, rows, indices, arms, values⟩ := same
    have config : a.config = b.config := Std.LawfulEqOrd.eq_of_compare configs
    have row : a.row = b.row := Std.LawfulEqOrd.eq_of_compare rows
    have index : a.index = b.index := Std.LawfulEqOrd.eq_of_compare indices
    have arm : a.arm = b.arm := Std.LawfulEqOrd.eq_of_compare arms
    have value : a.value = b.value := Std.LawfulEqOrd.eq_of_compare values
    cases a
    cases b
    simp_all

/-- What a summary shows, counter by counter. -/
def Summary.shown (s : Summary) : List (String × Kind × Counter) :=
  s.counters.map fun counter => (s.key, s.kind, counter)

namespace Tallies

/-- The count of a branch of a subject, if it has been counted. -/
def counted? (t : Tallies) (subject : Subject) (branch : Branch) : Option Nat :=
  t[subject]? >>= fun tally => tally[branch]?

/-- Counting changes one entry. -/
theorem counted?_increment (t : Tallies) (subject other : Subject) (branch way : Branch) :
    (t.increment subject branch).counted? other way =
      if subject = other ∧ branch = way then some (t.count subject branch + 1)
      else t.counted? other way := by
  unfold increment counted? count
  rw [Std.ExtTreeMap.getElem?_alter]
  by_cases same : subject = other
  · subst same
    rw [if_pos Std.ReflCmp.compare_self, Option.bind_eq_bind, Option.bind_some,
      Std.ExtTreeMap.getElem?_alter]
    by_cases here : branch = way
    · subst here
      cases t[subject]? <;> simp
    · cases t[subject]? <;> simp [here]
  · rw [if_neg (by simpa using same)]
    simp [same]

/-- Tallies that keep nothing without a count. -/
structure Sound (t : Tallies) : Prop where
  filled : ∀ (subject : Subject) (tally : Tally), t[subject]? = some tally → tally ≠ ∅
  positive : ∀ subject branch count, t.counted? subject branch = some count → 0 < count

/-- Counting keeps tallies sound. -/
theorem Sound.increment {t : Tallies} (sound : t.Sound) (subject : Subject) (branch : Branch) :
    (t.increment subject branch).Sound where
  filled other tally held := by
    rw [Tallies.increment, Std.ExtTreeMap.getElem?_alter] at held
    split at held
    · obtain rfl := Option.some.inj held
      intro empty
      have counted := congrArg (fun tally : Tally => tally[branch]?) empty
      simp at counted
    · exact sound.filled other tally held
  positive other way count held := by
    rw [counted?_increment] at held
    split at held
    · rw [← Option.some.inj held]
      exact Nat.succ_pos _
    · exact sound.positive other way count held

/-- The entries of both levels in the order of a report. -/
def places (t : Tallies) : List ((Subject × Branch) × Nat) :=
  t.toList.flatMap fun (subject, tally) =>
    tally.toList.map fun (branch, count) => ((subject, branch), count)

end Tallies

end LiveConfig.Telemetry
