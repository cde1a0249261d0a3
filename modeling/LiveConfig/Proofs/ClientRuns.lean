import Mathlib.Tactic.Tauto
import LiveConfig.Client.Lookup
import LiveConfig.Proofs.Delivery
import LiveConfig.Proofs.Outcome

/-!
# Runs of a client

Lookups, fetches and events reach a client in any order. `Client.Act` is one of them and
`Client.run` what they lead to. Lookups are steps of a run like all others: one that waits is the
step at which its wait ends, by what the background tasks bring or because the time is over. Fetches
may be begun long before they end, and then they are the step at which they end.

`Moved` says once what a step can do to the stores and to the gate: the live store takes in what the
step brings, and the gate opens if the step brings something or if it is a wait that ends in vain
and the options let it open the gate. All that is known of a whole run follows from it.
-/

namespace LiveConfig.Client

open EventStream (carried?)

/-- What may be asked of a client. Each of these waits for the gate first. What a key is asked for,
with a default or without, makes no difference to the client that is left behind. -/
inductive Question where
  | key (bound : List Context) (key : String) (context : Context)
  | level (bound : List Context) (logger : String)
  /-- Nothing but whether lookups may pass. -/
  | readiness

/-- What may happen to a client. -/
inductive Act where
  /-- A question; if the background tasks are late, they finish nothing while it waits. -/
  | asked (late : Bool) (question : Question)
  | refreshed
  /-- The end of a fetch that has been begun before. -/
  | fetched (outcome : Except ClientError Snapshot)
  /-- An event of the service's stream. -/
  | heard (data : String)
  | background
  | started
  | stopped

/-- Puts a question to a client. -/
def pose (c : Client) : Question → Client
  | .key bound key context => (c.resolve bound key context).2
  | .level bound logger => (c.logLevel bound logger).2
  | .readiness => c.await.2

/-- The client that a question meets: late tasks have nothing to finish while it waits. -/
def delayed (c : Client) (late : Bool) : Client :=
  { c with awaitsFetch := c.awaitsFetch && !late }

/-- Ends a fetch. Without a service there is none to end. -/
def conclude (c : Client) (outcome : Except ClientError Snapshot) : Client :=
  match c.live, outcome with
  | some _, .ok snapshot => (c.take snapshot).1
  | _, _ => c

/-- What one act leads to. A question leaves late tasks as they were. -/
def perform (c : Client) : Act → Client
  | .asked late question =>
    let answered := (c.delayed late).pose question
    { answered with awaitsFetch := if late then c.awaitsFetch else answered.awaitsFetch }
  | .refreshed => c.refresh.2
  | .fetched outcome => c.conclude outcome
  | .heard data => c.hear data
  | .background => c.runBackground
  | .started => c.start.2
  | .stopped => c.stop

/-- What acts in turn lead to. -/
def run (c : Client) (acts : List Act) : Client :=
  acts.foldl perform c

/-- The snapshot that a fetch gives, if there is a service and the fetch succeeds. -/
def fetched? (c : Client) : Option Snapshot := do
  let live ← c.live
  let feed ← c.feed
  (feed.fetch live.watermark).1.toOption

/-- The snapshot that the background tasks bring when they run. -/
def background? (c : Client) : Option Snapshot :=
  if c.awaitsFetch then c.fetched? else none

/-- The snapshot that arrives while something waits for the gate. -/
def waited? (c : Client) : Option Snapshot :=
  if c.gate.isOpen then none else c.background?

/-- Whether a wait for the gate ends in vain. -/
def timesOut (c : Client) : Bool :=
  !c.gate.isOpen && c.waited?.isNone

/-- The snapshot that an act brings. -/
def brought? (c : Client) : Act → Option Snapshot
  | .asked late _ => (c.delayed late).waited?
  | .refreshed => c.fetched?
  | .fetched outcome => c.live.bind fun _ => outcome.toOption
  | .heard data => c.live.bind fun _ => carried? data
  | .background => c.background?
  | .started | .stopped => none

/-- Whether an act is a wait that ends in vain. -/
def expires (c : Client) : Act → Bool
  | .asked late _ => (c.delayed late).timesOut
  | _ => false

/-- The snapshots that a run brings, in order. -/
def arrivals (c : Client) : List Act → List Snapshot
  | [] => []
  | act :: rest => (c.brought? act).toList ++ (c.perform act).arrivals rest

/-- Whether some wait of a run ends in vain. -/
def anyExpires (c : Client) : List Act → Bool
  | [] => false
  | act :: rest => c.expires act || (c.perform act).anyExpires rest

/-- How a client has moved, given the snapshots that have arrived meanwhile and whether a wait has
ended in vain. -/
structure Moved (c d : Client) (arrived : List Snapshot) (expired : Bool) : Prop where
  options : d.options = c.options
  layers : d.layers = c.layers
  live : d.live = c.live.map fun live => arrived.foldl (fun s snapshot => (s.apply snapshot).1) live
  gate : d.gate.isOpen = true ↔
    c.gate.isOpen = true ∨ arrived ≠ [] ∨ expired = true ∧ c.options.onFailure = .unlock
  /-- Nothing arrives where there is no service. -/
  sourced : c.live = none → arrived = []

namespace Moved

variable {c d e : Client} {arrived later : List Snapshot} {expired expiredLater : Bool}

/-- A client that keeps its options, its stores and its gate has not moved. -/
theorem still (options : d.options = c.options) (layers : d.layers = c.layers)
    (live : d.live = c.live) (gate : d.gate = c.gate) : Moved c d [] false where
  options := options
  layers := layers
  live := by simp [live]
  gate := by simp [gate]
  sourced := fun _ => rfl

/-- Moves in turn are one move. -/
theorem trans (first : Moved c d arrived expired) (second : Moved d e later expiredLater) :
    Moved c e (arrived ++ later) (expired || expiredLater) where
  options := second.options.trans first.options
  layers := second.layers.trans first.layers
  live := by
    rw [second.live, first.live, Option.map_map]
    simp only [Function.comp_def, List.foldl_append]
  gate := by
    rw [second.gate, first.gate, first.options]
    simp only [ne_eq, List.append_eq_nil_iff, Bool.or_eq_true]
    tauto
  sourced := by
    intro absent
    have without : d.live = none := by rw [first.live, absent, Option.map_none]
    rw [first.sourced absent, second.sourced without, List.append_nil]

end Moved

/-- Where there is a service, taking in a snapshot applies it and opens the gate. -/
theorem take_eq (c : Client) (live : Live) (snapshot : Snapshot) (service : c.live = some live) :
    (c.take snapshot).1 =
      { c with live := some (live.apply snapshot).1, gate := c.gate.unlock } := by
  simp only [take, service, Option.getD_some]

/-- A snapshot that is taken in is what arrives. -/
theorem take_moved (c : Client) (live : Live) (snapshot : Snapshot) (service : c.live = some live) :
    Moved c (c.take snapshot).1 [snapshot] false where
  options := rfl
  layers := rfl
  live := by simp [take, service]
  gate := by simp [take, Gate.unlock, Gate.opened]
  sourced absent := by simp [service] at absent

/-- What a fetch does. Either it fails and changes nothing but the feed, or it gives a snapshot and
the client takes it in. -/
theorem refresh_cases (c : Client) :
    (c.fetched? = none ∧ ∃ error feed, c.refresh = (.error error, { c with feed })) ∨
      ∃ live snapshot applied feed, c.live = some live ∧ c.fetched? = some snapshot ∧
        c.refresh = (.ok applied, { (c.take snapshot).1 with feed }) := by
  -- `cases` would also split the store inside the client that is left behind.
  rcases Option.eq_none_or_eq_some c.live with absent | ⟨live, service⟩
  · have failed : c.refresh = (.error (.options .noService), c) := by simp only [refresh, absent]
    exact .inl ⟨by simp [fetched?, absent], _, c.feed, failed⟩
  rcases Option.eq_none_or_eq_some c.feed with absent | ⟨feed, source⟩
  · have failed : c.refresh = (.error (.options .noService), c) := by
      simp only [refresh, service, absent]
    exact .inl ⟨by simp [fetched?, service, absent], _, c.feed, failed⟩
  cases reply : (feed.fetch live.watermark).1 with
  | error error =>
    left
    refine ⟨by simp [fetched?, service, source, reply, Except.toOption], error,
      (feed.fetch live.watermark).2, ?_⟩
    simp only [refresh, service, source, reply]
  | ok snapshot =>
    right
    refine ⟨live, snapshot, (live.apply snapshot).2, (feed.fetch live.watermark).2, service,
      by simp [fetched?, service, source, reply, Except.toOption], ?_⟩
    simp only [refresh, service, source, reply, take, Option.getD_some]

/-- A fetch moves a client by what it gives. -/
theorem refresh_moved (c : Client) : Moved c c.refresh.2 c.fetched?.toList false := by
  rcases c.refresh_cases with
    ⟨empty, error, feed, failed⟩ | ⟨live, snapshot, applied, feed, service, given, succeeded⟩
  · rw [empty, failed]
    exact .still rfl rfl rfl rfl
  · rw [given, succeeded]
    exact (c.take_moved live snapshot service).trans (.still rfl rfl rfl rfl)

/-- The end of a fetch moves a client by what it gives. -/
theorem conclude_moved (c : Client) (outcome : Except ClientError Snapshot) :
    Moved c (c.conclude outcome) (c.live.bind fun _ => outcome.toOption).toList false := by
  cases service : c.live with
  | none =>
    simp only [conclude, service]
    exact .still rfl rfl rfl rfl
  | some live =>
    cases outcome with
    | error error =>
      simp only [conclude, service]
      exact .still rfl rfl rfl rfl
    | ok snapshot =>
      simp only [conclude, service]
      exact c.take_moved live snapshot service

/-- An event moves a client by what it carries. -/
theorem hear_moved (c : Client) (data : String) :
    Moved c (c.hear data) (c.live.bind fun _ => carried? data).toList false := by
  cases service : c.live with
  | none =>
    simp only [hear, service]
    exact .still rfl rfl rfl rfl
  | some live =>
    rw [Option.bind_some]
    cases carried : carried? data with
    | none =>
      rw [c.hear_empty data carried]
      exact .still rfl rfl rfl rfl
    | some snapshot =>
      rw [c.hear_carried live data snapshot service carried, ← c.take_eq live snapshot service]
      exact c.take_moved live snapshot service

/-- The background tasks move a client by what they bring. -/
theorem runBackground_moved (c : Client) :
    Moved c c.runBackground c.background?.toList false := by
  rw [runBackground, background?]
  split
  · have fetched := c.refresh_moved.trans
      (.still (d := { c.refresh.2 with awaitsFetch := false }) rfl rfl rfl rfl)
    simpa using fetched
  · exact .still rfl rfl rfl rfl

/-- A wait that ends in vain opens the gate if the options say so, and else does nothing. -/
theorem timeOut_moved (c : Client) : Moved c c.timeOut.2 [] true := by
  cases policy : c.options.onFailure with
  | refuse =>
    simp only [timeOut, policy]
    exact ⟨rfl, rfl, by simp, by simp [policy], fun _ => rfl⟩
  | unlock =>
    simp only [timeOut, policy]
    exact ⟨rfl, rfl, by simp, by simp [policy, Gate.unlock, Gate.opened], fun _ => rfl⟩

/-- The background tasks open a closed gate exactly if they bring a snapshot. -/
theorem runBackground_opens (c : Client) (closed : c.gate.isOpen = false) :
    c.runBackground.gate.isOpen = c.background?.isSome := by
  rw [Bool.eq_iff_iff, c.runBackground_moved.gate, closed]
  simp [Option.isSome_iff_ne_none]

/-- Waiting moves a client by what arrives meanwhile, and else ends in vain. -/
theorem await_moved (c : Client) : Moved c c.await.2 c.waited?.toList c.timesOut := by
  cases state : c.gate.isOpen with
  | true =>
    simp only [await, timesOut, waited?, state, if_true]
    exact .still rfl rfl rfl rfl
  | false =>
    have worked := c.runBackground_moved
    have opens := c.runBackground_opens state
    simp only [await, timesOut, waited?, state, opens, Bool.false_eq_true, if_false]
    cases arrived : c.background? with
    | some snapshot =>
      rw [arrived] at worked
      exact worked
    | none =>
      rw [arrived] at worked
      exact worked.trans c.runBackground.timeOut_moved

/-- A key that is resolved without waiting leaves all but the recorder and the fractions of chance
as it is. -/
theorem resolveNow_moved (c : Client) (bound : List Context) (key : String) (context : Context) :
    Moved c (c.resolveNow bound key context).2 [] false :=
  .still rfl rfl rfl rfl

/-- So do the keys that are asked for a level in turn. -/
theorem firstLevel_moved (c : Client) (bound : List Context) (keys : List String) :
    Moved c (c.firstLevel bound keys).2 [] false := by
  induction keys generalizing c with
  | nil => exact .still rfl rfl rfl rfl
  | cons key rest inductionHypothesis =>
    have asked := c.resolveNow_moved bound key ∅
    simp only [firstLevel]
    split
    · exact asked
    · exact asked.trans (inductionHypothesis _)

/-- Whatever is asked, a client moves as far as waiting moves it. -/
theorem pose_moved (c : Client) (question : Question) :
    Moved c (c.pose question) c.waited?.toList c.timesOut := by
  have waited := c.await_moved
  rcases awaited : c.await with ⟨outcome, after⟩
  rw [awaited] at waited
  cases question with
  | key bound key context =>
    simp only [pose, resolve, awaited]
    cases outcome with
    | error error => exact waited
    | ok => simpa using waited.trans (after.resolveNow_moved bound key context)
  | level bound logger =>
    simp only [pose, logLevel, awaited]
    cases outcome with
    | error error => exact waited
    | ok => simpa using waited.trans (after.firstLevel_moved bound (levelKeys logger))
  | readiness =>
    simp only [pose, awaited]
    exact waited

/-- An act moves a client by what it brings, and by its end in vain if it is a wait. -/
theorem perform_moved (c : Client) (act : Act) :
    Moved c (c.perform act) (c.brought? act).toList (c.expires act) := by
  cases act with
  | asked late question =>
    -- Late tasks are put aside and taken up again, and neither moves the client.
    have delayed : Moved c (c.delayed late) [] false := .still rfl rfl rfl rfl
    have posed := delayed.trans ((c.delayed late).pose_moved question)
    have restored := posed.trans (.still (d := c.perform (.asked late question)) rfl rfl rfl rfl)
    simp only [List.nil_append, List.append_nil, Bool.false_or, Bool.or_false] at restored
    exact restored
  | refreshed => exact c.refresh_moved
  | fetched outcome => exact c.conclude_moved outcome
  | heard data => exact c.hear_moved data
  | background => exact c.runBackground_moved
  | started =>
    simp only [perform, start]
    split
    · exact .still rfl rfl rfl rfl
    · split <;> exact .still rfl rfl rfl rfl
  | stopped => exact .still rfl rfl rfl rfl

/-- A run moves a client by all that it brings, and by its waits that end in vain. -/
theorem run_moved (c : Client) (acts : List Act) :
    Moved c (c.run acts) (c.arrivals acts) (c.anyExpires acts) := by
  induction acts generalizing c with
  | nil => exact .still rfl rfl rfl rfl
  | cons act rest inductionHypothesis =>
    exact (c.perform_moved act).trans (inductionHypothesis (c.perform act))

/-- A client that is built has the layers of its options, a service that has brought nothing, if
there is one, and a gate that is open if there is none. -/
theorem build_ok (options : Options) (files : Files) (feed : Option Feed) (c : Client)
    (built : build options files feed = .ok c) :
    allLayers options files = .ok c.layers ∧ c.options = options ∧
      c.live = (if options.usesService then some {} else none) ∧
      c.gate = ⟨!options.usesService⟩ := by
  simp only [build, Outcome.bind_ok_iff, Outcome.mapError_ok_iff] at built
  obtain ⟨-, -, layers, listed, made⟩ := built
  obtain rfl := Except.ok.inj made
  exact ⟨listed, rfl, rfl, rfl⟩

end LiveConfig.Client
