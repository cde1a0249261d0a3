import LiveConfig.Value.Basic

/-!
# Configs

A config serves values by rules. Its rules stand in rows, each bound to one environment or to none,
and a rule serves its value where all of its criteria hold. A config without rows marks a deletion.
-/

namespace LiveConfig

/-- How a criterion tests a property. -/
inductive Operator where
  | unset
  | always
  | isOneOf
  | isNotOneOf
  | endsWithOneOf
  | endsWithNoneOf
  | startsWith
  | inRange
  | inSegment
  | notInSegment
deriving DecidableEq, Repr

namespace Operator

/-- The operators in the order of their listing. -/
def all : List Operator :=
  [.unset, .always, .isOneOf, .isNotOneOf, .endsWithOneOf, .endsWithNoneOf, .startsWith, .inRange,
    .inSegment, .notInSegment]

/-- The name of an operator. -/
def name : Operator → String
  | unset => "NOT_SET"
  | always => "ALWAYS_TRUE"
  | isOneOf => "PROP_IS_ONE_OF"
  | isNotOneOf => "PROP_IS_NOT_ONE_OF"
  | endsWithOneOf => "PROP_ENDS_WITH_ONE_OF"
  | endsWithNoneOf => "PROP_DOES_NOT_END_WITH_ONE_OF"
  | startsWith => "HIERARCHICAL_MATCH"
  | inRange => "IN_INT_RANGE"
  | inSegment => "IN_SEG"
  | notInSegment => "NOT_IN_SEG"

/-- The operator of a name. -/
def ofName? (name : String) : Option Operator :=
  all.find? (·.name == name)

end Operator

/-- One test on a property of the context or on a segment. -/
structure Criterion where
  operator : Operator
  property : String := ""
  /-- What the property is compared with, or the key of the segment. -/
  target : Option Value := none

/-- A value and the criteria under which it is served. -/
structure Rule where
  criteria : List Criterion := []
  value : Value

/-- The rules for one environment, or for those that have no rules of their own. -/
structure Row where
  environment : Option Int64 := none
  rules : List Rule := []

/-- What a config is for. -/
inductive Kind where
  | unset
  | config
  | featureFlag
  | logLevel
  | segment
deriving DecidableEq, Repr

/-- The name of a kind. -/
def Kind.name : Kind → String
  | unset => "NOT_SET"
  | config => "CONFIG"
  | featureFlag => "FEATURE_FLAG"
  | logLevel => "LOG_LEVEL"
  | segment => "SEGMENT"

/-- A named record of rules. Of two records with one key the greater id is the newer. -/
structure Config where
  id : Int64 := 0
  project : Int64 := 0
  key : String
  kind : Kind := .config
  valueType : ValueType := .unset
  rows : List Row := []

namespace Config

/-- Whether the record marks a deletion. -/
def isTombstone (c : Config) : Bool :=
  c.rows.isEmpty

/-- A config with one rule for every environment; its value type is the value's own. -/
def single (id : Int64) (key : String) (kind : Kind) (rule : Rule) : Config :=
  { id, key, kind, valueType := rule.value.payload.valueType, rows := [{ rules := [rule] }] }

/-- A config that always serves one value; a truth value makes it a feature flag. -/
def constant (id : Int64) (key : String) (value : Value) : Config :=
  single id key (if value.bool?.isSome then .featureFlag else .config) { value }

end Config

end LiveConfig
