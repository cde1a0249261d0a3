import LiveConfig.Telemetry.Submission
import Mathlib.Data.List.Forall2

/-!
# What happens to a recorder

A recorder observes resolutions and contexts, and is drained as a whole, by the part or by a
submission. Each part is kept for itself: what an act does to a part depends on what is kept of it
and on the act alone, and so does what the act takes out of it. Laws about whole traces follow from
these three descriptions.

Resolvers and contexts may change from act to act, and so may the replies to submissions. Counts
and positions are natural numbers; nothing is said about the widths they are sent in. Times are not
kept.
-/

namespace LiveConfig.Telemetry

/-- A part of what is recorded. -/
inductive Part where
  | summaries
  | examples
  | shapes
deriving DecidableEq, Repr

/-- What happens to a recorder. -/
inductive Act where
  /-- A key is resolved, which may fail. -/
  | resolved (resolver : Resolver) (context : Context) (key : String)
  /-- A context is observed without a resolution. -/
  | asked (context : Context)
  /-- All parts are drained. -/
  | drained
  /-- One part is drained. -/
  | drainedPart (part : Part)
  /-- What has been recorded is posted, with this reply. -/
  | submitted (reply : Http.Reply)

/-- What is shown of an outcome: the resolution, if there is one and its config is no log level. -/
def answersOf : Except ConfigError Resolution → List Resolution
  | .ok resolution => if resolution.config.kind = .logLevel then [] else [resolution]
  | .error _ => []

namespace Act

/-- Whether an act drains a part. -/
def drains : Act → Part → Bool
  | drained, _ | submitted _, _ => true
  | drainedPart drainedOne, part => drainedOne = part
  | resolved .., _ | asked _, _ => false

/-- What an act takes of the report of a part. -/
def taken {α : Type} (act : Act) (part : Part) (report : Option α) : Option α :=
  if act.drains part then report else none

/-- The contexts that an act shows. -/
def contexts : Act → List Context
  | resolved _ context _ | asked context => [context]
  | drained | drainedPart _ | submitted _ => []

/-- The resolutions that an act shows. -/
def answers : Act → List Resolution
  | resolved resolver context key => answersOf (resolver.resolve context key)
  | asked _ | drained | drainedPart _ | submitted _ => []

end Act

/-- The summaries in a report, if it is one of summaries. -/
def Report.summaries? : Report → Option (List Summary)
  | summaries list => some list
  | examples _ | shapes _ => none

/-- The examples in a report, if it is one of examples. -/
def Report.examples? : Report → Option (List WrittenContext)
  | examples list => some list
  | summaries _ | shapes _ => none

/-- The shapes in a report, if it is one of shapes. -/
def Report.shapes? : Report → Option Shapes
  | shapes s => some s
  | summaries _ | examples _ => none

namespace Recorder

/-- Forgets a part. -/
def forget (r : Recorder) : Part → Recorder
  | .summaries => r.clearSummaries
  | .examples => r.clearExamples
  | .shapes => r.clearShapes

/-- The summaries that would be drained; none if there is nothing to report. -/
def summaryReport? (r : Recorder) : Option (List Summary) :=
  r.summaries >>= Tallies.report?

/-- The examples that would be drained; none if there is nothing to report. -/
def exampleReport? (r : Recorder) : Option (List WrittenContext) :=
  r.examples >>= Examples.report?

/-- The shapes that would be drained; none if there is nothing to report. -/
def shapeReport? (r : Recorder) : Option Shapes :=
  r.shapes >>= Shapes.report?

/-- The report of a part. -/
def reportOf? (r : Recorder) : Part → Option Report
  | .summaries => r.summaryReport?.map .summaries
  | .examples => r.exampleReport?.map .examples
  | .shapes => r.shapeReport?.map .shapes

/-- The recorder after an act. -/
def perform (r : Recorder) : Act → Recorder
  | .resolved resolver context key => r.observeAll context (resolver.resolve context key)
  | .asked context => r.recordContext context
  | .drained => r.drain.2
  | .drainedPart part => r.forget part
  | .submitted reply => (r.submit reply).left

/-- What an act takes out of the recorder: the reports that are drained or those that are posted. -/
def reported (r : Recorder) : Act → List Report
  | .resolved .. | .asked _ => []
  | .drained => r.drain.1
  | .drainedPart part => (r.reportOf? part).toList
  | .submitted reply => (r.submit reply).posted.getD []

/-- The recorder after acts in turn. -/
def run (r : Recorder) (acts : List Act) : Recorder :=
  acts.foldl perform r

/-- What acts in turn take out of the recorder. -/
def reportedBy (r : Recorder) : List Act → List Report
  | [] => []
  | act :: acts => r.reported act ++ (r.perform act).reportedBy acts

/-- A submission posts what a drain reports, all of it at once, or nothing if there is nothing to
report. It leaves the recorder as a drain does. The reply makes no difference to either. -/
theorem submit_drains (r : Recorder) (reply : Http.Reply) :
    (r.submit reply).posted = (if r.drain.1 = [] then none else some r.drain.1) ∧
      (r.submit reply).left = r.drain.2 := by
  unfold submit
  dsimp only
  by_cases empty : r.drain.1 = []
  · rw [if_pos (List.isEmpty_iff.mpr empty), if_pos empty]
    exact ⟨rfl, rfl⟩
  · rw [if_neg (mt List.isEmpty_iff.mp empty), if_neg empty]
    exact ⟨rfl, rfl⟩

/-- What a submission posts is what a drain reports. -/
theorem reported_submitted (r : Recorder) (reply : Http.Reply) :
    r.reported (.submitted reply) = r.reported .drained := by
  show (r.submit reply).posted.getD [] = r.drain.1
  rw [(r.submit_drains reply).1]
  split
  · next empty => rw [empty, Option.getD_none]
  · rw [Option.getD_some]

/-- A resolution is observed as its context and its answers. -/
theorem observeAll_eq (r : Recorder) (context : Context) (outcome : Except ConfigError Resolution) :
    r.observeAll context outcome =
      (answersOf outcome).foldl recordResolution (r.recordContext context) := by
  unfold observeAll Resolution.events answersOf
  rw [List.foldl_cons]
  cases outcome with
  | error cause => rfl
  | ok resolution =>
    dsimp only
    split <;> rfl

/-- Resolutions change the summaries only. -/
theorem foldl_recordResolution (r : Recorder) (resolutions : List Resolution) :
    resolutions.foldl recordResolution r =
      { r with summaries := r.summaries.map (resolutions.foldl Tallies.record) } := by
  induction resolutions generalizing r with
  | nil => cases r with | mk summaries => cases summaries <;> rfl
  | cons resolution resolutions inductionHypothesis =>
    rw [List.foldl_cons, inductionHypothesis]
    simp [recordResolution, Function.comp_def]

/-- What an act leaves of each part: nothing if it drains the part, and otherwise what is kept with
what the act shows. -/
theorem perform_eq (r : Recorder) (act : Act) : r.perform act =
    { summaries := if act.drains .summaries then r.summaries.map fun _ => ∅
        else r.summaries.map (act.answers.foldl Tallies.record)
      examples := if act.drains .examples then r.examples.map fun _ => []
        else r.examples.map (act.contexts.foldl Examples.record)
      shapes := if act.drains .shapes then r.shapes.map fun _ => ∅
        else r.shapes.map (act.contexts.foldl Shapes.record) } := by
  have kept {α : Type} (part : Option α) : part.map (fun kept => kept) = part := Option.map_id'
  cases act with
  | resolved resolver context key =>
    rw [perform, observeAll_eq, foldl_recordResolution]
    rfl
  | asked context => simp [perform, recordContext, Act.drains, Act.answers, Act.contexts, kept]
  | drained => rfl
  | drainedPart part =>
    cases part <;> simp [perform, forget, clearSummaries, clearExamples, clearShapes, Act.drains,
      Act.answers, Act.contexts, kept]
  | submitted reply =>
    rw [perform, (r.submit_drains reply).2]
    rfl

/-- What an act takes out: the reports of the parts that it drains, in order. -/
theorem reported_eq (r : Recorder) (act : Act) : r.reported act =
    (act.taken .summaries r.summaryReport?).toList.map .summaries ++
      (act.taken .examples r.exampleReport?).toList.map .examples ++
      (act.taken .shapes r.shapeReport?).toList.map .shapes := by
  have listed {α : Type} (report : α → Report) (found : Option α) :
      (found.map report).toList = found.toList.map report := by
    cases found <;> rfl
  have all : r.drain.1 = r.summaryReport?.toList.map .summaries ++
      r.exampleReport?.toList.map .examples ++ r.shapeReport?.toList.map .shapes := by
    simp only [drain, reports, listed]
    rfl
  cases act with
  | resolved | asked => rfl
  | drained => exact all
  | submitted reply => exact (r.reported_submitted reply).trans all
  | drainedPart part =>
    cases part <;> simp [reported, reportOf?, Act.taken, Act.drains, listed]

section

variable (r : Recorder) (act : Act)

/-- The summaries that an act takes out. -/
theorem reported_summaries : (r.reported act).filterMap Report.summaries? =
    (act.taken .summaries r.summaryReport?).toList := by
  simp [reported_eq, List.filterMap_map, Function.comp_def, Report.summaries?]

/-- The examples that an act takes out. -/
theorem reported_examples : (r.reported act).filterMap Report.examples? =
    (act.taken .examples r.exampleReport?).toList := by
  simp [reported_eq, List.filterMap_map, Function.comp_def, Report.examples?]

/-- The shapes that an act takes out. -/
theorem reported_shapes : (r.reported act).filterMap Report.shapes? =
    (act.taken .shapes r.shapeReport?).toList := by
  simp [reported_eq, List.filterMap_map, Function.comp_def, Report.shapes?]

end

section

variable {β : Type} (R : Recorder → Recorder → Prop) (A : Act → Act → Prop)
  (preserved : ∀ r r' act act', R r r' → A act act' → R (r.perform act) (r'.perform act'))
include preserved

/-- What related acts preserve of two recorders, related traces do. -/
theorem run_related (acts acts' : List Act) (related : List.Forall₂ A acts acts')
    (r r' : Recorder) (start : R r r') : R (r.run acts) (r'.run acts') := by
  induction related generalizing r r' with
  | nil => exact start
  | cons first _ inductionHypothesis =>
    exact inductionHypothesis _ _ (preserved r r' _ _ start first)

/-- Where related acts take out related things, related traces do. -/
theorem reportedBy_related (read : Report → Option β) (Q : β → β → Prop)
    (taken : ∀ r r' act act', R r r' → A act act' →
      List.Forall₂ Q ((r.reported act).filterMap read) ((r'.reported act').filterMap read))
    (acts acts' : List Act) (related : List.Forall₂ A acts acts') (r r' : Recorder)
    (start : R r r') :
    List.Forall₂ Q ((r.reportedBy acts).filterMap read) ((r'.reportedBy acts').filterMap read) := by
  induction related generalizing r r' with
  | nil => exact .nil
  | cons first _ inductionHypothesis =>
    rw [reportedBy, reportedBy, List.filterMap_append, List.filterMap_append]
    exact List.rel_append (taken r r' _ _ start first)
      (inductionHypothesis _ _ (preserved r r' _ _ start first))

end

end Recorder

end LiveConfig.Telemetry
