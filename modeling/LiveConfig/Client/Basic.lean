import LiveConfig.Client.EventStream
import LiveConfig.Client.Fetch
import LiveConfig.Client.Options

/-!
# Clients

A client layers stores by its options: first the documents of the override directory, then its
supplies in order. The service's configs live in one store, wherever and however often the service
stands among the supplies.

Lookups wait behind a gate until the service has delivered for the first time. The gate opens with
the first snapshot and never closes; where waiting fails, the options say whether lookups fail too
or the gate is opened all the same.

A client is a value: every operation gives the client that it leaves behind.
-/

namespace LiveConfig

/-- What stands at a path. -/
inductive Entry where
  | file (content : Bytes)
  | directory
deriving DecidableEq, Repr

/-- Files and directories by path. -/
abbrev Files := Std.ExtTreeMap String Entry

/-- Where snapshots are fetched from: a reply to each fetch in turn, and the offsets of the fetches
made so far. -/
structure Feed where
  reply : Nat → Int64 → Except ClientError Snapshot
  offsets : List Int64 := []

namespace Feed

/-- A feed that gives these replies and then fails. -/
def scripted (replies : List (Except ClientError Snapshot)) : Feed where
  reply n _ := replies.getD n (.error (.status Http.exhaustedStatus))

/-- A feed from the first of several peers that gives a snapshot. -/
def ofPeers (retry : Retry) (peers : List Http.Peer) : Feed where
  reply _ _ := Fetch.search retry (peers.map Fetch.attemptsAt)

/-- Fetches what is newer than an offset. -/
def fetch (f : Feed) (offset : Int64) : Except ClientError Snapshot × Feed :=
  (f.reply f.offsets.length offset, { f with offsets := f.offsets ++ [offset] })

end Feed

/-- One of the stores that a client layers. -/
inductive Layer where
  | fixed (store : Store)
  /-- The store that the service feeds. -/
  | service

/-- A client: its options, its stores, and how far it has come. -/
structure Client where
  options : Options
  layers : List Layer
  /-- What the service has delivered, if it is one of the supplies. -/
  live : Option Live
  gate : Gate
  recorder : Option Telemetry.Recorder
  feed : Option Feed
  /-- Whether the background tasks run. -/
  isStarted : Bool := false
  /-- Whether the background tasks still have to make the first fetch. -/
  awaitsFetch : Bool := false
  /-- The fractions by which splits are decided that no property decides, in order. -/
  chance : Nat → Float := Chance.fraction 0

namespace Client

/-- The store of a document, if the path is that of a file. -/
def documentAt (files : Files) (path : String) : Except ConfigError (Option Store) :=
  match files[path]? with
  | some (.file content) =>
    match Bytes.toText? content with
    | some text => (Store.ofDocument text).map some
    | none => .error (.inaccessible .notText)
  | _ => .ok none

/-- The stores of the documents in a directory. -/
def documentsIn (options : Options) (files : Files) (directory : String) :
    Except ConfigError (List Layer) := do
  let stores ← (options.filesIn directory).mapM (documentAt files)
  return (stores.filterMap id).map .fixed

/-- The store of a dump at a path. -/
def dumpAt (files : Files) (path : String) (environment : Int64) : Except ConfigError Store :=
  match files[path]? with
  | none => .error (.inaccessible .missing)
  | some .directory => .error (.inaccessible .directory)
  | some (.file content) => Store.ofDump content environment

/-- The stores of a supply. -/
def layersOf (options : Options) (files : Files) : Supply → Except ConfigError (List Layer)
  | .service => .ok [.service]
  | .localFiles => documentsIn options files options.directory
  | .dump path environment => (dumpAt files path environment).map fun store => [.fixed store]
  | .values values => .ok [.fixed (.ofValues values.toList)]

/-- The stores that come before all supplies. -/
def overrideLayers (options : Options) (files : Files) : Except ConfigError (List Layer) :=
  match options.effectiveOverride with
  | none => .ok []
  | some directory => documentsIn options files directory

/-- All stores of a client, in the order of their precedence. -/
def allLayers (options : Options) (files : Files) : Except ConfigError (List Layer) := do
  let overrides ← overrideLayers options files
  let supplied ← options.effectiveSupplies.mapM (layersOf options files)
  return overrides ++ supplied.flatten

/-- The recorder of a client: only where there is a service, and something to record. -/
def recorderOf? (options : Options) : Option Telemetry.Recorder :=
  if options.usesService then
    some (Telemetry.Recorder.start options.collectSummaries options.uploadMode) |>.filter
      (·.isEnabled)
  else none

/-- Builds a client that fetches from a feed. -/
def build (options : Options) (files : Files) (feed : Option Feed) :
    Except ClientError Client := do
  options.validate.mapError .options
  let layers ← (allLayers options files).mapError .config
  return { options, layers, feed
           live := if options.usesService then some {} else none
           gate := ⟨!options.usesService⟩
           recorder := recorderOf? options }

/-- Builds a client that fetches from the service's addresses. -/
def ofPeers (options : Options) (files : Files) (peers : List Http.Peer) :
    Except ClientError Client :=
  let feed :=
    if options.usesService && options.effectiveKey.isSome then
      some (Feed.ofPeers options.retry peers)
    else none
  build options files feed

/-- The store of one layer, given what the service has delivered. -/
def layerStore (live : Live) : Layer → Store
  | .fixed store => store
  | .service => .live live

/-- The store that lookups see. -/
def store (c : Client) : Store :=
  .layers (c.layers.map (layerStore (c.live.getD {})))

/-- The resolver that lookups use. -/
def resolver (c : Client) : Resolver where
  catalog := c.store.catalog
  vars := c.options.vars
  depth := c.options.depth
  chance := c.chance

/-- Takes in a snapshot and opens the gate. -/
def take (c : Client) (snapshot : Snapshot) : Client × Applied :=
  let (live, applied) := (c.live.getD {}).apply snapshot
  ({ c with live := some live, gate := c.gate.unlock }, applied)

/-- Fetches what is newer than the watermark. -/
def refresh (c : Client) : Except ClientError Applied × Client :=
  match c.live, c.feed with
  | some live, some feed =>
    let (outcome, feed) := feed.fetch live.watermark
    let c := { c with feed := some feed }
    match outcome with
    | .ok snapshot =>
      let (c, applied) := c.take snapshot
      (.ok applied, c)
    | .error error => (.error error, c)
  | _, _ => (.error (.options .noService), c)

/-- Takes in one event of the service's stream. Without a service there is none to follow. -/
def hear (c : Client) (data : String) : Client :=
  match c.live with
  | none => c
  | some live =>
    let fed := EventStream.Fed.take ⟨live, c.gate⟩ data
    { c with live := some fed.live, gate := fed.gate }

/-- Follows one connection to the service's stream, given the reply to it. -/
def follow (c : Client) (reply : Http.Reply) : Except ClientError Unit × Client :=
  match c.live with
  | none => (.error (.options .noService), c)
  | some live =>
    let (outcome, fed) := EventStream.Fed.consume ⟨live, c.gate⟩ reply
    (outcome, { c with live := some fed.live, gate := fed.gate })

/-- Whether telemetry would have a host to go to. -/
def checkTelemetry (c : Client) : Except ClientError Unit :=
  if c.recorder.isSome && c.options.effectiveKey.isSome then
    ((Telemetry.checkHost c.options.telemetryHost).map fun _ => ()).mapError .telemetry
  else .ok ()

/-- Starts the background tasks: the first fetch, and telemetry. A second start does nothing. -/
def start (c : Client) : Except ClientError Unit × Client :=
  if c.isStarted then (.ok (), c)
  else
    match c.checkTelemetry with
    | .error error => (.error error, c)
    | .ok () =>
      (.ok (), { c with isStarted := true, awaitsFetch := c.live.isSome && c.feed.isSome })

/-- Stops the background tasks. -/
def stop (c : Client) : Client :=
  { c with isStarted := false, awaitsFetch := false }

/-- Lets the background tasks make the first fetch, if it is still to be made. -/
def runBackground (c : Client) : Client :=
  if c.awaitsFetch then { (c.refresh).2 with awaitsFetch := false } else c

/-- What waiting comes to when the gate has not opened in time. -/
def timeOut (c : Client) : Except ClientError Unit × Client :=
  match c.options.onFailure with
  | .refuse => (.error (.config (.timedOut c.options.initTimeout)), c)
  | .unlock => (.ok (), { c with gate := c.gate.unlock })

/-- Waits until the gate is open. The background tasks have the time to finish what they do. -/
def await (c : Client) : Except ClientError Unit × Client :=
  if c.gate.isOpen then (.ok (), c)
  else
    let c := c.runBackground
    if c.gate.isOpen then (.ok (), c) else c.timeOut

end Client

end LiveConfig
