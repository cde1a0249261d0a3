import Std.Data.ExtTreeMap
import LiveConfig.Error
import LiveConfig.Json.Reader

/-!
# Native values

A native value is what a program works with: durations and JSON documents are read, provided values
are fetched, and nothing is left to decide. `Value.extract` makes one from a value and
`Native.toValue` writes one as a value again.
-/

namespace LiveConfig

/-- The variables of an environment by name. -/
abbrev Variables := Std.ExtTreeMap String String

/-- A value in the form that programs use. -/
inductive Native where
  | int (n : Int64)
  | double (x : Double)
  | bool (b : Bool)
  | text (s : String)
  | texts (list : List String)
  | bytes (bs : Bytes)
  | duration (d : Duration)
  | logLevel (level : LogLevel)
  | json (document : Json)
  | range (r : IntRange)

/-- A JSON document from its written form. -/
def readJson (text : String) : Except ConfigError Json :=
  match Json.parse? text with
  | some document => .ok document
  | none => .error (.unreadable .json)

namespace Value

/-- The native form of a value. -/
def extract (vars : Variables) (v : Value) : Except ConfigError Native :=
  match v.payload with
  | .int n => .ok (.int n)
  | .double x => .ok (.double x)
  | .bool b => .ok (.bool b)
  | .text s => .ok (.text s)
  | .texts list => .ok (.texts list)
  | .bytes bs => .ok (.bytes bs)
  | .duration definition => (readDuration definition).map .duration
  | .logLevel level => .ok (.logLevel level)
  | .json document => (readJson document).map .json
  | .range r => .ok (.range r)
  | .provided ⟨.environment, name⟩ =>
    match vars[name]? with
    | some text => .ok (.text text)
    | none => .error (.missingVariable name)
  | .provided ⟨.unset, _⟩ => .error (.invalid .noOrigin)
  | .split _ => .error (.invalid .undecidedSplit)

/-- The duration that the value holds, if it is well written. -/
def duration? (v : Value) : Option Duration :=
  match v.payload with
  | .duration definition => (readDuration definition).toOption
  | _ => none

/-- The JSON document that the value holds, if it is well written. -/
def json? (v : Value) : Option Json :=
  match v.payload with
  | .json document => Json.parse? document
  | _ => none

end Value

/-- The payload of a native value. -/
def Native.toPayload : Native → Payload
  | int n => .int n
  | double x => .double x
  | bool b => .bool b
  | text s => .text s
  | texts list => .texts list
  | bytes bs => .bytes bs
  | duration d => .duration d.render
  | logLevel level => .logLevel level
  | json document => .json document.render
  | range r => .range r

/-- A native value as a value without marks. -/
def Native.toValue (n : Native) : Value :=
  { payload := n.toPayload }

end LiveConfig
