import LiveConfig.Resolution

/-!
# Summaries of evaluations

Resolutions are counted by subject, the key and kind of a config, and under it by branch: the
config's id, the row, the rule and the arm that were chosen, and the bytes of the value served. A
confidential value is redacted before its bytes are taken, so no secret enters a summary.

Both levels are kept and reported in order.
-/

namespace LiveConfig.Telemetry

/-- What evaluations are grouped by. -/
structure Subject where
  key : String
  kind : Kind
deriving DecidableEq

/-- Subjects are ordered by key, then by the number of the kind. -/
def Subject.order : Subject → Subject → Ordering :=
  compareLex (compareOn key) (compareOn fun s => s.kind.number)

instance : Std.TransCmp Subject.order :=
  inferInstanceAs (Std.TransCmp (compareLex _ _))

/-- Which way an evaluation went, and what it served. -/
structure Branch where
  config : Int64
  row : Nat
  index : Nat
  arm : Option Nat
  /-- The bytes of the redacted value. -/
  value : Bytes
deriving DecidableEq

/-- Branches are ordered by their components in turn; no arm comes before any arm. -/
def Branch.order : Branch → Branch → Ordering :=
  compareLex (compareOn config) <| compareLex (compareOn row) <| compareLex (compareOn index) <|
    compareLex (compareOn arm) (compareOn value)

instance : Std.TransCmp Branch.order :=
  inferInstanceAs (Std.TransCmp (compareLex _ _))

/-- Counts by branch. -/
abbrev Tally := Std.ExtTreeMap Branch Nat Branch.order

/-- Counts by subject and branch. -/
abbrev Tallies := Std.ExtTreeMap Subject Tally Subject.order

/-- The subject of a resolution. -/
def subjectOf (r : Resolution) : Subject :=
  ⟨r.key, r.config.kind⟩

/-- The branch of a resolution that served a value. -/
def branchOf? (r : Resolution) : Option Branch := do
  let found ← r.selection
  let value ← r.value
  return { config := r.config.id, row := found.row, index := found.index, arm := r.arm,
           value := value.redacted.encode }

namespace Tallies

/-- Counts one evaluation. -/
def increment (t : Tallies) (subject : Subject) (branch : Branch) : Tallies :=
  t.alter subject fun tally =>
    some ((tally.getD ∅).alter branch fun count => some (count.getD 0 + 1))

/-- Counts a resolution, if it served a value. -/
def record (t : Tallies) (r : Resolution) : Tallies :=
  match branchOf? r with
  | some branch => t.increment (subjectOf r) branch
  | none => t

/-- How often a branch of a subject has been counted. -/
def count (t : Tallies) (subject : Subject) (branch : Branch) : Nat :=
  (t[subject]? >>= fun tally => tally[branch]?).getD 0

end Tallies

/-- One branch in a report. -/
structure Counter where
  count : Nat
  config : Int64
  row : Nat
  index : Nat
  arm : Option Nat
  /-- The message that the branch's bytes hold, unless they hold none. -/
  selected : Option Wire.ValueMessage

/-- One subject in a report. -/
structure Summary where
  key : String
  kind : Kind
  counters : List Counter

/-- The counter of a branch. -/
def counterOf (branch : Branch) (count : Nat) : Counter :=
  { count, config := branch.config, row := branch.row, index := branch.index, arm := branch.arm,
    selected := Wire.decode? Wire.ValueMessage.merge? {} branch.value }

/-- The report of all counts in order; none if nothing has been counted. -/
def Tallies.report? (t : Tallies) : Option (List Summary) :=
  if t.isEmpty then none
  else some <| t.toList.map fun (subject, tally) =>
    { key := subject.key, kind := subject.kind,
      counters := tally.toList.map fun (branch, count) => counterOf branch count }

end LiveConfig.Telemetry
