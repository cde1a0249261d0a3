import LiveConfig.Double
import LiveConfig.IntRange
import LiveConfig.LogLevel
import LiveConfig.Split

/-!
# Values

Every config, criterion and context property is expressed in values. A value is a payload with
two marks: whether it is confidential, and the key of the config that decrypts it.
-/

namespace LiveConfig

/-- Where the text of a provided value comes from. -/
inductive Origin where
  | unset
  | environment
deriving DecidableEq, Repr

/-- A text that stands outside the config, named here. -/
structure Provided where
  origin : Origin
  name : String
deriving DecidableEq, Repr

mutual

/-- What a value holds. -/
inductive Payload where
  | int (n : Int64)
  | double (x : Double)
  | bool (b : Bool)
  | text (s : String)
  | texts (list : List String)
  | bytes (bs : Bytes)
  /-- A duration in its written form. -/
  | duration (definition : String)
  | logLevel (level : LogLevel)
  /-- A JSON document in its written form. -/
  | json (document : String)
  | range (r : IntRange)
  | split (s : Split Value)
  | provided (p : Provided)

/-- A payload with its marks. -/
structure Value where
  payload : Payload
  /-- Whether the value must not be shown. -/
  confidential : Bool := false
  /-- The key of the config that holds the key to this value. -/
  decryptWith : Option String := none

end

/-- The declared type of a config's values. -/
inductive ValueType where
  | unset
  | int
  | text
  | bytes
  | double
  | bool
  | logLevel
  | texts
  | range
  | duration
  | json
deriving DecidableEq, Repr

/-- The name of a value type. -/
def ValueType.name : ValueType → String
  | unset => "NOT_SET"
  | int => "INT"
  | text => "STRING"
  | bytes => "BYTES"
  | double => "DOUBLE"
  | bool => "BOOL"
  | logLevel => "LOG_LEVEL"
  | texts => "STRING_LIST"
  | range => "INT_RANGE"
  | duration => "DURATION"
  | json => "JSON"

/-- The type of the values that a payload can be served as; splits and provided values stand for
values of any type. -/
def Payload.valueType : Payload → ValueType
  | int _ => .int
  | double _ => .double
  | bool _ => .bool
  | text _ => .text
  | texts _ => .texts
  | bytes _ => .bytes
  | duration _ => .duration
  | logLevel _ => .logLevel
  | json _ => .json
  | range _ => .range
  | split _ => .unset
  | provided _ => .unset

/-- The short name of what a payload holds. -/
def Payload.tag : Payload → String
  | int _ => "int"
  | double _ => "double"
  | bool _ => "bool"
  | text _ => "string"
  | texts _ => "string_list"
  | bytes _ => "bytes"
  | duration _ => "duration"
  | logLevel _ => "log_level"
  | json _ => "json"
  | range _ => "int_range"
  | split _ => "weighted_values"
  | provided _ => "provided"

namespace Value

/-- The integer that the value holds. -/
def int? (v : Value) : Option Int64 :=
  match v.payload with
  | .int n => some n
  | _ => none

/-- The double that the value holds. -/
def double? (v : Value) : Option Double :=
  match v.payload with
  | .double x => some x
  | _ => none

/-- The truth value that the value holds. -/
def bool? (v : Value) : Option Bool :=
  match v.payload with
  | .bool b => some b
  | _ => none

/-- The text that the value holds. -/
def text? (v : Value) : Option String :=
  match v.payload with
  | .text s => some s
  | _ => none

/-- The list of texts that the value holds. -/
def texts? (v : Value) : Option (List String) :=
  match v.payload with
  | .texts list => some list
  | _ => none

/-- The bytes that the value holds. -/
def bytes? (v : Value) : Option Bytes :=
  match v.payload with
  | .bytes bs => some bs
  | _ => none

/-- The log level that the value holds. -/
def logLevel? (v : Value) : Option LogLevel :=
  match v.payload with
  | .logLevel level => some level
  | _ => none

/-- The range that the value holds. -/
def range? (v : Value) : Option IntRange :=
  match v.payload with
  | .range r => some r
  | _ => none

/-- The split that the value holds. -/
def split? (v : Value) : Option (Split Value) :=
  match v.payload with
  | .split s => some s
  | _ => none

/-- The provided value that the value holds. -/
def provided? (v : Value) : Option Provided :=
  match v.payload with
  | .provided p => some p
  | _ => none

end Value

mutual

/-- Equality of payloads. Doubles are compared as numbers, so two zeros are equal and nothing equals
a NaN. -/
def Payload.same : Payload → Payload → Bool
  | .int m, .int n => m == n
  | .double x, .double y => x.toFloat == y.toFloat
  | .bool a, .bool b => a == b
  | .text s, .text t => s == t
  | .texts l, .texts m => l == m
  | .bytes a, .bytes b => a == b
  | .duration s, .duration t => s == t
  | .logLevel a, .logLevel b => a == b
  | .json s, .json t => s == t
  | .range r, .range q => r == q
  | .split ⟨arms, hashBy⟩, .split ⟨others, otherHashBy⟩ =>
    sameArms arms others && hashBy == otherHashBy
  | .provided p, .provided q => p == q
  | _, _ => false
termination_by structural p => p

/-- Equality of values: equal payloads and equal marks. -/
def Value.same : Value → Value → Bool
  | ⟨p, c, d⟩, ⟨q, c', d'⟩ => p.same q && c == c' && d == d'
termination_by structural v => v

/-- Equality of lists of arms. -/
def sameArms : List (Arm Value) → List (Arm Value) → Bool
  | [], [] => true
  | ⟨weight, value⟩ :: arms, ⟨otherWeight, other⟩ :: others =>
    weight == otherWeight && value.same other && sameArms arms others
  | _, _ => false
termination_by structural arms => arms

end

end LiveConfig
