import LiveConfig.Telemetry.Example
import LiveConfig.Telemetry.Shape
import LiveConfig.Telemetry.Summary

/-!
# Recording telemetry

A recorder observes resolutions and keeps what it is set up to keep: summaries of evaluations,
example contexts and context shapes. Draining reports and forgets all of it, in this order.
-/

namespace LiveConfig.Telemetry

/-- How much is reported about contexts. -/
inductive UploadMode where
  | nothing
  | shapes
  /-- Shapes, and an example of each identity. -/
  | examples
deriving DecidableEq, Repr

/-- What has been recorded; a part that is not kept is missing. -/
structure Recorder where
  summaries : Option Tallies
  examples : Option Examples
  shapes : Option Shapes

/-- A report of one part. -/
inductive Report where
  | summaries (list : List Summary)
  | examples (list : List WrittenContext)
  | shapes (s : Shapes)

namespace Recorder

/-- A recorder that has seen nothing. -/
def start (summaries : Bool) (mode : UploadMode) : Recorder where
  summaries := if summaries then some ∅ else none
  examples := if mode = .examples then some [] else none
  shapes := if mode = .nothing then none else some ∅

/-- The recorder that keeps everything. -/
def full : Recorder :=
  start true .examples

/-- Whether anything is kept. -/
def isEnabled (r : Recorder) : Bool :=
  r.summaries.isSome || r.examples.isSome || r.shapes.isSome

/-- Observes the context of a resolution. -/
def recordContext (r : Recorder) (c : Context) : Recorder :=
  { r with examples := r.examples.map (·.record c), shapes := r.shapes.map (·.record c) }

/-- Observes a resolution. -/
def recordResolution (r : Recorder) (resolution : Resolution) : Recorder :=
  { r with summaries := r.summaries.map (·.record resolution) }

/-- Observes an event. -/
def observe (r : Recorder) : Event → Recorder
  | .asked context => r.recordContext context
  | .answered resolution => r.recordResolution resolution

/-- Observes a resolution from its context to its outcome. -/
def observeAll (r : Recorder) (context : Context) (outcome : Except ConfigError Resolution) :
    Recorder :=
  (Resolution.events context outcome).foldl observe r

/-- Forgets the summaries. -/
def clearSummaries (r : Recorder) : Recorder :=
  { r with summaries := r.summaries.map fun _ => ∅ }

/-- Forgets the examples. -/
def clearExamples (r : Recorder) : Recorder :=
  { r with examples := r.examples.map fun _ => [] }

/-- Forgets the shapes. -/
def clearShapes (r : Recorder) : Recorder :=
  { r with shapes := r.shapes.map fun _ => ∅ }

/-- The reports of all parts that have something to report. -/
def reports (r : Recorder) : List Report :=
  ((r.summaries >>= Tallies.report?).map Report.summaries).toList ++
    ((r.examples >>= Examples.report?).map Report.examples).toList ++
    ((r.shapes >>= Shapes.report?).map Report.shapes).toList

/-- Reports and forgets everything. -/
def drain (r : Recorder) : List Report × Recorder :=
  (r.reports, r.clearSummaries.clearExamples.clearShapes)

end Recorder

end LiveConfig.Telemetry
