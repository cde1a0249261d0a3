import LiveConfig.Snapshot
import LiveConfig.Wire.Numbers
import LiveConfig.Wire.ValueMessage

/-!
# Configs on the wire

The messages that carry configs: criteria, rules, rows and configs, contexts, and the two envelopes,
a snapshot and a dump. A snapshot drops the configs and properties that break the rules of a value,
so one bad config does not stop the others; a dump also drops what is marked as deleted.

`Snapshot.decode?` reads what `Snapshot.encode` writes, and `Dump.decode?` what `Dump.encode`
writes.
-/

namespace LiveConfig

namespace Wire

/-- A criterion of which parts may be missing. -/
structure CriterionMessage where
  property : String := ""
  operator : Int32 := 0
  target : Option ValueMessage := none

/-- A rule of which parts may be missing. -/
structure RuleMessage where
  criteria : List CriterionMessage := []
  value : Option ValueMessage := none

/-- A row of rules. -/
structure RowMessage where
  environment : Option Int64 := none
  rules : List RuleMessage := []

/-- A config of which parts may be missing. -/
structure ConfigMessage where
  id : Int64 := 0
  project : Int64 := 0
  key : String := ""
  rows : List RowMessage := []
  kind : Int32 := 0
  valueType : Int32 := 0

/-- The environment that a snapshot is for. -/
structure PointerMessage where
  project : Int64 := 0
  environment : Int64 := 0

/-- A named group of properties; of two properties with one name the later counts. -/
structure GroupMessage where
  name : Option String := none
  properties : List (String × ValueMessage) := []

/-- A snapshot of which parts may be missing. -/
structure SnapshotMessage where
  configs : List ConfigMessage := []
  pointer : Option PointerMessage := none
  defaultContext : Option (List GroupMessage) := none

/-- A config in a dump. -/
structure DumpEntryMessage where
  config : Option ConfigMessage := none
  deleted : Bool := false

/-- Merges a field into a criterion. -/
def CriterionMessage.merge? (depth : Nat) (c : CriterionMessage) (f : Field) :
    Option CriterionMessage :=
  match f.number with
  | 1 => f.text?.map fun property => { c with property }
  | 2 => f.int32?.map fun operator => { c with operator }
  | 3 => (nest? noneForced depth ValueMessage.merge? (c.target.getD {}) f).map fun v =>
    { c with target := some v }
  | _ => pass? depth c

/-- Merges a field into a rule. -/
def RuleMessage.merge? (depth : Nat) (r : RuleMessage) (f : Field) : Option RuleMessage :=
  match f.number with
  | 1 => (nest? noneForced depth CriterionMessage.merge? {} f).map fun c =>
    { r with criteria := r.criteria ++ [c] }
  | 2 => (nest? noneForced depth ValueMessage.merge? (r.value.getD {}) f).map fun v =>
    { r with value := some v }
  | _ => pass? depth r

/-- Merges a field into a row. -/
def RowMessage.merge? (depth : Nat) (r : RowMessage) (f : Field) : Option RowMessage :=
  match f.number with
  | 1 => f.int64?.map fun environment => { r with environment := some environment }
  | 2 => (nest? noneForced depth RuleMessage.merge? {} f).map fun rule =>
    { r with rules := r.rules ++ [rule] }
  | _ => pass? depth r

/-- Merges a field into a config. -/
def ConfigMessage.merge? (depth : Nat) (c : ConfigMessage) (f : Field) : Option ConfigMessage :=
  match f.number with
  | 1 => f.int64?.map fun id => { c with id }
  | 2 => f.int64?.map fun project => { c with project }
  | 3 => f.text?.map fun key => { c with key }
  | 5 => (nest? noneForced depth RowMessage.merge? {} f).map fun row =>
    { c with rows := c.rows ++ [row] }
  | 7 => f.int32?.map fun kind => { c with kind }
  | 9 => f.int32?.map fun valueType => { c with valueType }
  | _ => pass? depth c

/-- Merges a field into a pointer. -/
def PointerMessage.merge? (depth : Nat) (p : PointerMessage) (f : Field) : Option PointerMessage :=
  match f.number with
  | 1 => f.int64?.map fun project => { p with project }
  | 2 => f.int64?.map fun environment => { p with environment }
  | _ => pass? depth p

/-- Merges a field into one property: its name and its value. -/
def mergeProperty? (depth : Nat) (p : String × ValueMessage) (f : Field) :
    Option (String × ValueMessage) :=
  match f.number with
  | 1 => f.text?.map fun name => (name, p.2)
  | 2 => (nest? noneForced depth ValueMessage.merge? p.2 f).map fun v => (p.1, v)
  | _ => pass? depth p

/-- The properties of a group are read as byte strings whatever their key says. -/
def propertiesForced (number : Nat) : Bool :=
  number == 2

/-- Merges a field into a group. -/
def GroupMessage.merge? (depth : Nat) (g : GroupMessage) (f : Field) : Option GroupMessage :=
  match f.number with
  | 1 => f.text?.map fun name => { g with name := some name }
  | 2 => (nest? noneForced depth mergeProperty? ("", {}) f).map fun property =>
    { g with properties := g.properties ++ [property] }
  | _ => pass? depth g

/-- Merges a field into a context. -/
def mergeGroups? (depth : Nat) (groups : List GroupMessage) (f : Field) :
    Option (List GroupMessage) :=
  match f.number with
  | 1 => (nest? propertiesForced depth GroupMessage.merge? {} f).map fun g => groups ++ [g]
  | _ => pass? depth groups

/-- Merges a field into a snapshot. -/
def SnapshotMessage.merge? (depth : Nat) (s : SnapshotMessage) (f : Field) :
    Option SnapshotMessage :=
  match f.number with
  | 1 => (nest? noneForced depth ConfigMessage.merge? {} f).map fun c =>
    { s with configs := s.configs ++ [c] }
  | 2 => (nest? noneForced depth PointerMessage.merge? (s.pointer.getD {}) f).map fun p =>
    { s with pointer := some p }
  | 4 => (nest? noneForced depth mergeGroups? (s.defaultContext.getD []) f).map fun groups =>
    { s with defaultContext := some groups }
  | _ => pass? depth s

/-- Merges a field into an entry of a dump. -/
def DumpEntryMessage.merge? (depth : Nat) (e : DumpEntryMessage) (f : Field) :
    Option DumpEntryMessage :=
  match f.number with
  | 1 => (nest? noneForced depth ConfigMessage.merge? (e.config.getD {}) f).map fun c =>
    { e with config := some c }
  | 2 => f.bool?.map fun deleted => { e with deleted }
  | 3 => f.number?.map fun _ => e
  | _ => pass? depth e

/-- Merges a field into a dump. -/
def mergeDump? (depth : Nat) (entries : List DumpEntryMessage) (f : Field) :
    Option (List DumpEntryMessage) :=
  match f.number with
  | 1 => (nest? noneForced depth DumpEntryMessage.merge? {} f).map fun e => entries ++ [e]
  | _ => pass? depth entries

/-- The criterion of a message. -/
def CriterionMessage.toCriterion (c : CriterionMessage) : Except ConfigFault Criterion := do
  let target ← c.target.mapM ValueMessage.toValue
  return { operator := .ofNumber c.operator, property := c.property, target }

/-- The rule of a message in the config of a key. -/
def RuleMessage.toRule (key : String) (r : RuleMessage) : Except ConfigFault Rule :=
  match r.value with
  | none => .error (.ruleWithoutValue key)
  | some value => do
    let criteria ← r.criteria.mapM CriterionMessage.toCriterion
    return { criteria, value := ← value.toValue }

/-- The row of a message in the config of a key. -/
def RowMessage.toRow (key : String) (r : RowMessage) : Except ConfigFault Row := do
  let rules ← r.rules.mapM (RuleMessage.toRule key)
  return { environment := r.environment, rules }

/-- The config of a message. -/
def ConfigMessage.toConfig (c : ConfigMessage) : Except ConfigFault Config := do
  let rows ← c.rows.mapM (RowMessage.toRow c.key)
  return { id := c.id, project := c.project, key := c.key, kind := .ofNumber c.kind,
           valueType := .ofNumber c.valueType, rows }

/-- The configs of those messages that follow the rules. -/
def soundConfigs (messages : List ConfigMessage) : List Config :=
  messages.filterMap fun c => c.toConfig.toOption

/-- The group of a message, without the properties that break the rules. -/
def GroupMessage.toGroup (g : GroupMessage) : String × Properties :=
  let latest : Std.ExtTreeMap String ValueMessage := .ofList g.properties
  (g.name.getD "", latest.filterMap fun _ v => v.toValue.toOption)

/-- The snapshot of a message. -/
def SnapshotMessage.toSnapshot (s : SnapshotMessage) : Snapshot where
  configs := soundConfigs s.configs
  environment := s.pointer.map PointerMessage.environment
  defaultContext := s.defaultContext.map fun groups => .ofGroups (groups.map GroupMessage.toGroup)

/-- The fields of a criterion. -/
def criterionFields (c : Criterion) : List Field :=
  unlessDefault "" (.ofText 1) c.property ++ unlessDefault 0 (.ofInt32 2) c.operator.number ++
    optional (fun v => .ofMessage 3 (valueFields v)) c.target

/-- The fields of a rule. -/
def ruleFields (r : Rule) : List Field :=
  r.criteria.map (fun c => .ofMessage 1 (criterionFields c)) ++ [.ofMessage 2 (valueFields r.value)]

/-- The fields of a row. -/
def rowFields (r : Row) : List Field :=
  optional (.ofInt64 1) r.environment ++ r.rules.map fun rule => .ofMessage 2 (ruleFields rule)

/-- The fields of a config. -/
def configFields (c : Config) : List Field :=
  unlessDefault 0 (.ofInt64 1) c.id ++ unlessDefault 0 (.ofInt64 2) c.project ++
    unlessDefault "" (.ofText 3) c.key ++ c.rows.map (fun row => .ofMessage 5 (rowFields row)) ++
    unlessDefault 0 (.ofInt32 7) c.kind.number ++ unlessDefault 0 (.ofInt32 9) c.valueType.number

/-- The fields of a pointer to an environment. -/
def pointerFields (environment : Int64) : List Field :=
  unlessDefault 0 (.ofInt64 2) environment

/-- The fields of one property. An empty name is left out. -/
def propertyFields (name : String) (v : Value) : List Field :=
  unlessDefault "" (.ofText 1) name ++ [.ofMessage 2 (valueFields v)]

/-- The fields of a group, its properties in the order of their names. -/
def groupFields (name : String) (properties : Properties) : List Field :=
  .ofText 1 name ::
    properties.toList.map fun (property, v) => .ofMessage 2 (propertyFields property v)

/-- The fields of a context, its groups in the order of their names. -/
def contextFields (c : Context) : List Field :=
  c.toList.map fun (name, properties) => .ofMessage 1 (groupFields name properties)

/-- The fields of a snapshot. -/
def snapshotFields (s : Snapshot) : List Field :=
  s.configs.map (fun c => .ofMessage 1 (configFields c)) ++
    optional (fun environment => .ofMessage 2 (pointerFields environment)) s.environment ++
    optional (fun context => .ofMessage 4 (contextFields context)) s.defaultContext

end Wire

namespace Snapshot

/-- Reads the bytes of a snapshot. -/
def decode? (bs : Bytes) : Option Snapshot :=
  (Wire.decode? Wire.SnapshotMessage.merge? {} bs).map Wire.SnapshotMessage.toSnapshot

/-- The bytes of a snapshot. -/
def encode (s : Snapshot) : Bytes :=
  Wire.writeAll (Wire.snapshotFields s)

end Snapshot

namespace Dump

/-- Reads the bytes of a dump and gives the configs in it that are sound and not deleted. -/
def decode? (bs : Bytes) : Option (List Config) := do
  let entries ← Wire.decode? Wire.mergeDump? [] bs
  let kept := entries.filter fun e => !e.deleted
  return Wire.soundConfigs (kept.filterMap Wire.DumpEntryMessage.config)

/-- The bytes of a dump of configs. -/
def encode (configs : List Config) : Bytes :=
  Wire.writeAll <| configs.map fun c => .ofMessage 1 [.ofMessage 1 (Wire.configFields c)]

end Dump

end LiveConfig
