import LiveConfig.Store.Basic

/-!
# Evaluation

A config is evaluated by its row for the store's environment, then by its row for no environment;
within a row the first rule counts whose criteria all hold. A criterion on a segment evaluates
another config, the segment, and holds where that serves true.

Segments may name segments, so evaluation carries how many more segments may be entered. Beyond the
limit a segment serves nothing, as if it were missing.
-/

namespace LiveConfig

/-- The rule that serves a config, and where it stands. -/
structure Selection where
  /-- The place of the row among the rows tried: 0, or 1 after a row for the environment. -/
  row : Nat
  /-- The place of the rule in its row. -/
  index : Nat
  rule : Rule

namespace Criterion

/-- What a text property and a list of texts satisfy. A missing side or one of another type gives
no answer. -/
def compareTexts (test : String → String → Bool) (property target : Option Value) :
    Option Bool := do
  let text ← property >>= Value.text?
  let texts ← target >>= Value.texts?
  some (texts.any (test text))

/-- Whether a property equals one of the target's texts. -/
def isOneOf (property target : Option Value) : Bool :=
  (compareTexts (fun text other => other == text) property target).getD false

/-- Whether a property ends with one of the target's texts. -/
def endsWithOneOf (property target : Option Value) : Bool :=
  let ends (text ending : String) : Bool := ending.toList.isSuffixOf text.toList
  (compareTexts ends property target).getD false

/-- Whether a property starts with the target. -/
def startsWith (property target : Option Value) : Bool :=
  match property >>= Value.text?, target >>= Value.text? with
  | some text, some start => start.toList.isPrefixOf text.toList
  | _, _ => false

/-- Whether a number lies in the target's range. -/
def inRange (property target : Option Value) : Bool :=
  match target >>= Value.range?, property.map Value.payload with
  | some range, some (.int n) => range.holdsInt n
  | some range, some (.double x) => range.holdsFloat x.toFloat
  | _, _ => false

/-- Whether the segment named by the target serves true. -/
def inSegment (segment : String → Option Bool) (target : Option Value) : Bool :=
  (target >>= Value.text? >>= segment) == some true

/-- Whether a criterion holds, given what segments serve and where properties are read. -/
def holds (segment : String → Option Bool) (lookup : Lookup) (c : Criterion) : Bool :=
  match c.operator with
  | .unset => false
  | .always => true
  | .isOneOf => isOneOf (lookup c.property) c.target
  | .isNotOneOf => !isOneOf (lookup c.property) c.target
  | .endsWithOneOf => endsWithOneOf (lookup c.property) c.target
  | .endsWithNoneOf => !endsWithOneOf (lookup c.property) c.target
  | .startsWith => startsWith (lookup c.property) c.target
  | .inRange => inRange (lookup c.property) c.target
  | .inSegment => inSegment segment c.target
  | .notInSegment => !inSegment segment c.target

end Criterion

/-- Whether all criteria of a rule hold. -/
def Rule.holds (segment : String → Option Bool) (lookup : Lookup) (r : Rule) : Bool :=
  r.criteria.all (·.holds segment lookup)

/-- The first rule of a row that holds, for a row at the given place. -/
def Row.select? (holds : Rule → Bool) (place : Nat) (row : Row) : Option Selection := do
  let index ← row.rules.findIdx? holds
  let rule ← row.rules[index]?
  some { row := place, index, rule }

namespace Config

/-- The first row for an environment. -/
def rowFor? (c : Config) (environment : Option Int64) : Option Row :=
  environment.bind fun e => c.rows.find? (·.environment == some e)

/-- The first row that is bound to no environment. -/
def fallbackRow? (c : Config) : Option Row :=
  c.rows.find? (·.environment.isNone)

/-- The rule that serves a config in an environment. -/
def select? (c : Config) (environment : Option Int64) (holds : Rule → Bool) : Option Selection :=
  match c.rowFor? environment with
  | some row => row.select? holds 0 <|> (c.fallbackRow? >>= Row.select? holds 1)
  | none => c.fallbackRow? >>= Row.select? holds 0

end Config

namespace Catalog

/-- What a segment serves where so many segments may be entered, this one included: nothing if it is
missing, has no rule that holds, or serves no truth value. -/
def segment (catalog : Catalog) (lookup : Lookup) : Nat → String → Option Bool
  | 0, _ => none
  | depth + 1, key => do
    let config ← catalog.config? key
    let found ← config.select? catalog.environment (·.holds (catalog.segment lookup depth) lookup)
    found.rule.value.bool?

/-- Whether a criterion holds where segments may nest to a depth. -/
def criterionHolds (catalog : Catalog) (depth : Nat) (lookup : Lookup) (c : Criterion) : Bool :=
  c.holds (catalog.segment lookup depth) lookup

/-- The rule that serves a config where segments may nest to a depth. -/
def evaluate (catalog : Catalog) (depth : Nat) (lookup : Lookup) (config : Config) :
    Option Selection :=
  config.select? catalog.environment (·.holds (catalog.segment lookup depth) lookup)

/-- The depth to which segments and keys may nest unless a limit is given. -/
def defaultDepth : Nat := 16

end Catalog

end LiveConfig
