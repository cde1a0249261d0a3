import LiveConfig.Config
import LiveConfig.Wire.Field

/-!
# Numbers on the wire

Kinds, value types and operators travel as numbers. A number without meaning is read as the one
that stands for nothing.
-/

namespace LiveConfig

/-- The number of a kind. -/
def Kind.number : Kind → Int32
  | unset => 0
  | config => 1
  | featureFlag => 2
  | logLevel => 3
  | segment => 4

/-- The kind of a number. -/
def Kind.ofNumber (n : Int32) : Kind :=
  if n = 1 then .config
  else if n = 2 then .featureFlag
  else if n = 3 then .logLevel
  else if n = 4 then .segment
  else .unset

theorem Kind.ofNumber_number (k : Kind) : ofNumber k.number = k := by
  cases k <;> rfl

/-- The number of a value type. -/
def ValueType.number : ValueType → Int32
  | unset => 0
  | int => 1
  | text => 2
  | bytes => 3
  | double => 4
  | bool => 5
  | logLevel => 9
  | texts => 10
  | range => 11
  | duration => 12
  | json => 13

/-- The value type of a number. -/
def ValueType.ofNumber (n : Int32) : ValueType :=
  if n = 1 then .int
  else if n = 2 then .text
  else if n = 3 then .bytes
  else if n = 4 then .double
  else if n = 5 then .bool
  else if n = 9 then .logLevel
  else if n = 10 then .texts
  else if n = 11 then .range
  else if n = 12 then .duration
  else if n = 13 then .json
  else .unset

theorem ValueType.ofNumber_number (t : ValueType) : ofNumber t.number = t := by
  cases t <;> rfl

/-- The number of an operator. -/
def Operator.number : Operator → Int32
  | unset => 0
  | inSegment => 3
  | notInSegment => 4
  | always => 5
  | isOneOf => 6
  | isNotOneOf => 7
  | endsWithOneOf => 8
  | endsWithNoneOf => 9
  | startsWith => 10
  | inRange => 11

/-- The operator of a number. -/
def Operator.ofNumber (n : Int32) : Operator :=
  if n = 3 then .inSegment
  else if n = 4 then .notInSegment
  else if n = 5 then .always
  else if n = 6 then .isOneOf
  else if n = 7 then .isNotOneOf
  else if n = 8 then .endsWithOneOf
  else if n = 9 then .endsWithNoneOf
  else if n = 10 then .startsWith
  else if n = 11 then .inRange
  else .unset

theorem Operator.ofNumber_number (o : Operator) : ofNumber o.number = o := by
  cases o <;> rfl

end LiveConfig
