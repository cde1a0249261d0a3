import LiveConfig.Store.Document
import LiveConfig.Store.Live
import LiveConfig.Wire.ConfigMessage

/-!
# Stores

A store answers which config a key has. Some stores are fixed tables, one is live, and several
stores layer into one, in which the first that has an answer gives it: for a key, for a property of
the default context, and for the environment.

`Catalog` is all that evaluation sees of a store.
-/

namespace LiveConfig

/-- What evaluation sees of a store. -/
structure Catalog where
  config? : String → Option Config
  environment : Option Int64 := none
  /-- The properties of the default context. -/
  defaults : Lookup := fun _ => none

/-- Where configs are kept. -/
inductive Store where
  /-- A fixed table, bound to an environment or to none. -/
  | table (configs : Table) (environment : Option Int64)
  | live (state : Live)
  /-- Several stores, of which the first one with an answer gives it. -/
  | layers (stores : List Store)

namespace Store

/-- A table of configs. -/
def ofConfigs (configs : List Config) (environment : Option Int64 := none) : Store :=
  .table (.ofConfigs configs) environment

/-- A table of values, each served always. -/
def ofValues (values : List (String × Value)) : Store :=
  ofConfigs (values.map fun (key, v) => .constant 0 key v)

/-- The table of a written document. -/
def ofDocument (text : String) : Except ConfigError Store :=
  (Document.parse text).map ofConfigs

/-- The table of a dump, bound to an environment. -/
def ofDump (bs : Bytes) (environment : Int64) : Except ConfigError Store :=
  match Dump.decode? bs with
  | some configs => .ok (ofConfigs configs (some environment))
  | none => .error .undecodable

mutual

/-- The config of a key. -/
def config? (key : String) : Store → Option Config
  | .table configs _ => configs[key]?
  | .live state => state.config? key
  | .layers stores => firstConfig? key stores

/-- The config of a key in the first store that has one. -/
def firstConfig? (key : String) : List Store → Option Config
  | [] => none
  | s :: rest => s.config? key <|> firstConfig? key rest

end

mutual

/-- A property of the default context. -/
def default? (name : String) : Store → Option Value
  | .table _ _ => none
  | .live state => state.defaultContext.property? name
  | .layers stores => firstDefault? name stores

/-- A property of the first default context that has it. -/
def firstDefault? (name : String) : List Store → Option Value
  | [] => none
  | s :: rest => s.default? name <|> firstDefault? name rest

end

mutual

/-- The environment that the store is bound to. -/
def environment : Store → Option Int64
  | .table _ environment => environment
  | .live state => state.environment
  | .layers stores => firstEnvironment stores

/-- The environment of the first store that is bound to one. -/
def firstEnvironment : List Store → Option Int64
  | [] => none
  | s :: rest => s.environment <|> firstEnvironment rest

end

/-- Merges two lists in order without duplicates into one. -/
def mergeKeys (xs ys : List String) : List String :=
  (Std.ExtTreeMap.ofList ((xs ++ ys).map fun key => (key, ()))).keys

mutual

/-- The keys that the store has configs for, in order. -/
def keys : Store → List String
  | .table configs _ => configs.keys
  | .live state => state.keys
  | .layers stores => allKeys stores

/-- The keys that any of the stores has a config for, in order. -/
def allKeys : List Store → List String
  | [] => []
  | s :: rest => mergeKeys s.keys (allKeys rest)

end

mutual

/-- Whether all live stores in it have received a snapshot. -/
def isInitialized : Store → Bool
  | .table _ _ => true
  | .live state => state.initialized
  | .layers stores => areInitialized stores

/-- Whether all of the stores are initialized. -/
def areInitialized : List Store → Bool
  | [] => true
  | s :: rest => s.isInitialized && areInitialized rest

end

/-- The number of entries: configs of a table or of a live store, stores of a layered one. -/
def size : Store → Nat
  | .table configs _ => configs.size
  | .live state => state.size
  | .layers stores => stores.length

/-- What evaluation sees of the store. -/
def catalog (s : Store) : Catalog where
  config? key := s.config? key
  environment := s.environment
  defaults name := s.default? name

end Store

end LiveConfig
