import LiveConfig.Error
import LiveConfig.Yaml.Document

/-!
# Configs from a document

A document is a mapping whose nested keys join with dots into the keys of configs. Inside a mapping
the key `_` stands for the mapping's own path. Two subtrees are special: a mapping with the key
`feature_flag` is one flag, whose value may be bound to a criterion, and what stands under
`log-level` is a level.

`Document.configs` gives the configs of a document in its order.
-/

namespace LiveConfig.Document

open Yaml (Node)

/-- The entries of a mapping. -/
abbrev Entries := List (Node × Node)

/-- The path of all log levels. -/
def levelRoot : String := "log-level"

/-- The key that stands for the path of its mapping. -/
def selfKey : String := "_"

/-- Whether a path belongs to a log level. -/
def isLevelPath (path : String) : Bool :=
  path == levelRoot || (levelRoot ++ ".").toList.isPrefixOf path.toList

/-- The path of a key within the mapping at a path. -/
def join (path key : String) : String :=
  if key = selfKey then path
  else if path.isEmpty then key
  else path ++ "." ++ key

/-- The text of a scalar. -/
def scalarText? : Node → Option String
  | .text s => some s
  | .number n => some n.text
  | .bool b => some (Text.boolText b)
  | _ => none

/-- The text of a key. -/
def keyText (node : Node) : Except ConfigError String :=
  match scalarText? node with
  | some s => .ok s
  | none => .error (.unreadable (.badKey node))

/-- The text of a scalar under a key. -/
def itemText (key : String) (node : Node) : Except ConfigError String :=
  match scalarText? node with
  | some s => .ok s
  | none => .error (.unreadable (.notScalar key node))

/-- The value of a number: an integer if it is one that fits, else a float. -/
def numberPayload (n : Yaml.Number) : Payload :=
  match n.toInt64? with
  | some i => .int i
  | none => .double (.ofFloat n.toFloat)

/-- The value of a leaf under a key. -/
def leafValue (key : String) (node : Node) : Except ConfigError Value :=
  match node with
  | .bool b => .ok { payload := .bool b }
  | .number n => .ok { payload := numberPayload n }
  | .text s => .ok { payload := .text s }
  | .sequence items => do
    let list ← items.mapM (itemText key)
    return { payload := .texts list }
  | node => .error (.unreadable (.value key node))

/-- The log level at a path. -/
def levelConfig (key : String) (node : Node) : Except ConfigError Config :=
  match node with
  | .text name => do
    let level ← readLogLevel name
    return .single 0 key .logLevel { value := { payload := .logLevel level } }
  | node => .error (.unreadable (.levelNotText key node))

/-- The config of a leaf at a path. -/
def leafConfig (key : String) (node : Node) : Except ConfigError Config :=
  if isLevelPath key then levelConfig key node
  else do
    let value ← leafValue key node
    return .single 0 key .config { value }

/-- The operator that a node names: by its text, or by a tag on nothing. -/
def operator? : Node → Option Operator
  | .text name => Operator.ofName? name
  | .tagged name .null => Operator.ofName? name
  | _ => none

/-- The texts that a criterion lists; a scalar stands for a list of one. -/
def criterionTexts (key : String) (criterion : Entries) : Except ConfigError (List String) :=
  match Node.entry? "values" criterion with
  | none => .ok []
  | some (.sequence items) => items.mapM (itemText key)
  | some item => (itemText key item).map fun s => [s]

/-- What an operator compares with, from the texts that a criterion lists. -/
def criterionTarget (operator : Operator) (texts : List String) : Option Value :=
  match operator with
  | .always | .unset => none
  | .startsWith | .inSegment | .notInSegment =>
    texts.head?.map fun s => { payload := .text s }
  | _ => some { payload := .texts texts }

/-- The property that a criterion tests; one that is no text is the empty name. -/
def criterionProperty (criterion : Entries) : String :=
  match Node.entry? "property" criterion with
  | some (.text s) => s
  | _ => ""

/-- The criterion of a flag. -/
def criterionOf (key : String) (criterion : Entries) : Except ConfigError Criterion :=
  match Node.entry? "operator" criterion with
  | none => .error (.unreadable (.noOperator key))
  | some node =>
    match operator? node with
    | none => .error (.unreadable (.operator key))
    | some operator => do
      let texts ← criterionTexts key criterion
      return { operator, property := criterionProperty criterion,
               target := criterionTarget operator texts }

/-- The criteria of a flag: one or none. -/
def flagCriteria (key : String) (flag : Entries) : Except ConfigError (List Criterion) :=
  match Node.entry? "criterion" flag with
  | none => .ok []
  | some (.mapping criterion) => (criterionOf key criterion).map fun c => [c]
  | some node => .error (.unreadable (.criterionNotMapping key node))

/-- The config of a flag. -/
def flagConfig (key : String) (flag : Entries) : Except ConfigError Config :=
  match Node.entry? "value" flag with
  | none => .error (.invalid (.flagWithoutValue key))
  | some node => do
    let value ← leafValue key node
    let criteria ← flagCriteria key flag
    return .single 0 key .featureFlag { criteria, value }

/-- Whether a mapping below the root is a flag. -/
def isFlag (path : String) (entries : Entries) : Bool :=
  !path.isEmpty && (Node.entry? "feature_flag" entries).isSome

mutual

/-- The configs at a path. -/
def nodeConfigs (path : String) : Node → Except ConfigError (List Config)
  | .mapping entries =>
    if isFlag path entries then do return [← flagConfig path entries]
    else entryConfigs path entries
  | .null => .ok []
  | .bool b => do return [← leafConfig path (.bool b)]
  | .number n => do return [← leafConfig path (.number n)]
  | .text s => do return [← leafConfig path (.text s)]
  | .sequence items => do return [← leafConfig path (.sequence items)]
  | .tagged tag content => do return [← leafConfig path (.tagged tag content)]

/-- The configs of the entries of a mapping. An entry with an empty path is passed over. -/
def entryConfigs (path : String) : Entries → Except ConfigError (List Config)
  | [] => .ok []
  | (k, v) :: rest => do
    let key ← keyText k
    let here ← if (join path key).isEmpty then .ok [] else nodeConfigs (join path key) v
    let others ← entryConfigs path rest
    return here ++ others

end

/-- The configs of a document: a mapping, or nothing at all. -/
def configs : Node → Except ConfigError (List Config)
  | .null => .ok []
  | .mapping entries => entryConfigs "" entries
  | _ => .error (.unreadable .notMapping)

/-- The configs of a written document. -/
def parse (text : String) : Except ConfigError (List Config) :=
  match Yaml.parse? text with
  | some node => configs node
  | none => .error (.unreadable .yaml)

end LiveConfig.Document
