import LiveConfig.Proofs.DecodedDepth
import LiveConfig.Proofs.RecorderTraces
import LiveConfig.Proofs.SecretChain
import LiveConfig.Proofs.TallyListing
import Mathlib.Data.Set.List

/-!
# Evaluations are counted exactly

Whatever happens to a recorder that keeps summaries, every resolution that served a value is counted
once: it stands in the summary that the next drain takes out or the next post carries, or it is
still pending. Nothing else is counted. A post carries what a drain would take out, whatever the
reply to it is, so what a failed post carried is gone, and it has been counted all the same.

Resolutions are counted together exactly if they agree in key, kind, config, row, rule, arm and
redacted value. The recorder compares bytes instead of values; equal bytes are bytes of equal
values, doubles by their bits, so this makes no difference. A reader of the report gets the value
back if it is one that can be read at all.
-/

namespace LiveConfig.Telemetry

/-- What is counted together. -/
structure Identity where
  key : String
  kind : Kind
  config : Int64
  row : Nat
  index : Nat
  arm : Option Nat
  /-- The redacted value. -/
  value : Value
deriving DecidableEq

namespace Identity

/-- The identity of a resolution in which a rule was found and a value was served. -/
def of (r : Resolution) (found : Selection) (v : Value) : Identity where
  key := r.key
  kind := r.config.kind
  config := r.config.id
  row := found.row
  index := found.index
  arm := r.arm
  value := v.redacted

/-- The identity of a resolution, if it served a value. -/
def of? (r : Resolution) : Option Identity := do
  let found ← r.selection
  let v ← r.value
  return of r found v

/-- The subject of an identity. -/
def subject (i : Identity) : Subject :=
  ⟨i.key, i.kind⟩

/-- The branch of an identity. -/
def branch (i : Identity) : Branch where
  config := i.config
  row := i.row
  index := i.index
  arm := i.arm
  value := i.value.encode

/-- What a report shows of an identity that has been counted so often. -/
def shown (i : Identity) (count : Nat) : String × Kind × Counter :=
  (i.key, i.kind, counterOf i.branch count)

/-- The branch of a resolution is that of its identity. -/
theorem branchOf?_eq (r : Resolution) : branchOf? r = (of? r).map branch := by
  unfold branchOf? of?
  cases r.selection <;> cases r.value <;> rfl

/-- The subject of a resolution is that of its identity. -/
theorem subject_of? (r : Resolution) (i : Identity) (identified : of? r = some i) :
    i.subject = subjectOf r := by
  obtain ⟨found, -, rest⟩ := Option.bind_eq_some_iff.mp identified
  obtain ⟨v, -, same⟩ := Option.bind_eq_some_iff.mp rest
  obtain rfl := Option.some.inj same
  rfl

end Identity

/-- Counts one more evaluation of an identity. -/
def Tallies.add (t : Tallies) (i : Identity) : Tallies :=
  t.increment i.subject i.branch

/-- Recording a resolution counts its identity, if it has one. -/
theorem Tallies.record_eq (t : Tallies) (r : Resolution) :
    t.record r = (Identity.of? r).toList.foldl Tallies.add t := by
  unfold record
  rw [Identity.branchOf?_eq]
  cases identified : Identity.of? r with
  | none => rfl
  | some i =>
    rw [Option.map_some, ← Identity.subject_of? r i identified]
    rfl

/-- Identities with their counts. -/
abbrev Book := List (Identity × Nat)

namespace Book

/-- The sum of the counts of an identity. -/
def count (book : Book) (i : Identity) : Nat :=
  ((book.filter fun entry => entry.1 = i).map Prod.snd).sum

/-- The first entry adds its count to its identity. -/
theorem count_cons (entry : Identity × Nat) (book : Book) (i : Identity) :
    count (entry :: book) i = (if entry.1 = i then entry.2 else 0) + count book i := by
  unfold count
  by_cases same : entry.1 = i <;> simp [same]

end Book

/-- A list of summaries shows what stands in a book, counter by counter. -/
structure Shows (list : List Summary) (book : Book) : Prop where
  counters : list.flatMap Summary.shown = book.map fun (i, n) => i.shown n
  /-- The subjects ascend by key and by the number of their kind. -/
  ascending : list.Pairwise fun a b =>
    a.key < b.key ∨ a.key = b.key ∧ a.kind.number < b.kind.number
  filled : ∀ s ∈ list, s.counters ≠ []
  /-- No identity occurs twice. -/
  distinct : (book.map Prod.fst).Nodup
  positive : ∀ entry ∈ book, 0 < entry.2

/-- The identity that an act counts: that of a resolution which succeeds with a value, for a config
that is no log level. -/
def Act.identity? : Act → Option Identity
  | .resolved resolver context key =>
    match resolver.resolve context key with
    | .ok resolution =>
      if resolution.config.kind = .logLevel then none else Identity.of? resolution
    | .error _ => none
  | .asked _ | .drained | .drainedPart _ | .submitted _ => none

/-- What is counted in turn between the drains of the summaries. -/
structure Windows where
  /-- The windows that a drain has closed. -/
  closed : List (List Identity)
  /-- What has been counted since the last drain. -/
  pending : List Identity

/-- The windows of a trace that starts with something pending. -/
def windows (pending : List Identity) : List Act → Windows
  | [] => ⟨[], pending⟩
  | act :: acts =>
    if act.drains .summaries then
      let later := windows [] acts
      ⟨pending :: later.closed, later.pending⟩
    else windows (pending ++ act.identity?.toList) acts

namespace Recorder

end Recorder

/-- The books of a trace: one for each list of summaries that was taken out, and one for what is
still pending. -/
structure Accounts (mode : UploadMode) (acts : List Act) (books : List Book) (pending : Book) :
    Prop where
  drained : List.Forall₂ Shows
    (((Recorder.start true mode).reportedBy acts).filterMap Report.summaries?) books
  kept : Shows (((Recorder.start true mode).run acts).summaryReport?.getD []) pending
  /-- Every window in which something was counted has a book, which counts what the window does. -/
  closed : List.Forall₂ (fun book window => ∀ i, Book.count book i = List.count i window) books
    ((windows [] acts).closed.filter (· ≠ []))
  opened : ∀ i, pending.count i = (windows [] acts).pending.count i
  /-- The counts of an identity add up to the number of resolutions that have it. -/
  conserved : ∀ i, (books.map (·.count i)).sum + pending.count i =
    acts.countP fun act => act.identity? = some i

end LiveConfig.Telemetry
