import LiveConfig.Snapshot
import LiveConfig.Store.Table

/-!
# The live store

A live store takes in snapshots in whatever order they arrive. For each key it keeps the record with
the greatest id, a deletion included, so an older record that arrives late neither overwrites a
newer one nor revives a deleted key. Deletions are kept but not served.

The watermark is the greatest id seen; a delivery that starts after it misses nothing.
-/

namespace LiveConfig

/-- What a live store has taken in so far. -/
structure Live where
  /-- The newest record of each key, deletions included. -/
  records : Table := ∅
  watermark : Int64 := 0
  environment : Option Int64 := none
  defaultContext : Context := ∅
  /-- Whether any snapshot has arrived. -/
  initialized : Bool := false

/-- What one snapshot changed. -/
structure Applied where
  updated : Nat := 0
  deleted : Nat := 0
  ignored : Nat := 0
  watermark : Int64 := 0
deriving DecidableEq, Repr

/-- What a record does to a store. -/
inductive Effect where
  | update
  | delete
  | ignore
deriving DecidableEq, Repr

/-- Counts one more effect. -/
def Applied.count (a : Applied) : Effect → Applied
  | .update => { a with updated := a.updated + 1 }
  | .delete => { a with deleted := a.deleted + 1 }
  | .ignore => { a with ignored := a.ignored + 1 }

namespace Live

/-- The record that is served for a key. -/
def config? (s : Live) (key : String) : Option Config :=
  s.records[key]?.filter fun c => !c.isTombstone

/-- The keys of the records that are served, in order. -/
def keys (s : Live) : List String :=
  (s.records.toList.filter fun (_, c) => !c.isTombstone).map Prod.fst

/-- The number of records that are served. -/
def size (s : Live) : Nat :=
  s.keys.length

/-- Whether a record is newer than the one kept for its key. -/
def isNews (s : Live) (c : Config) : Bool :=
  match s.records[c.key]? with
  | none => true
  | some kept => kept.id < c.id

/-- What a record would do. A deletion of what is not served is ignored, though kept. -/
def effect (s : Live) (c : Config) : Effect :=
  if !s.isNews c then .ignore
  else if !c.isTombstone then .update
  else if (s.config? c.key).isSome then .delete
  else .ignore

/-- Takes in one record. -/
def take (s : Live) (c : Config) : Live :=
  let records := if s.isNews c then s.records.insert c.key c else s.records
  { s with records, watermark := max s.watermark c.id }

/-- Takes in records one after the other, counting their effects. -/
def takeAll (s : Live) (applied : Applied) : List Config → Live × Applied
  | [] => (s, applied)
  | c :: rest => (s.take c).takeAll (applied.count (s.effect c)) rest

/-- The environment after a snapshot: it changes only with one that brings configs. -/
def nextEnvironment (s : Live) (snapshot : Snapshot) : Option Int64 :=
  if snapshot.configs.isEmpty then s.environment else snapshot.environment <|> s.environment

/-- Takes in a snapshot. -/
def apply (s : Live) (snapshot : Snapshot) : Live × Applied :=
  let received := { s with
    environment := s.nextEnvironment snapshot
    defaultContext := snapshot.defaultContext.getD s.defaultContext
    initialized := true }
  let (result, applied) := received.takeAll {} snapshot.configs
  (result, { applied with watermark := result.watermark })

end Live

end LiveConfig
