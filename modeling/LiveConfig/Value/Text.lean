import LiveConfig.Decimal.Shortest
import LiveConfig.Digest.Sha256
import LiveConfig.Hex
import LiveConfig.Text.Quoted
import LiveConfig.Value.Basic

/-!
# Values as text

A value has a raw text, which is what hashing and grouping see. Where a value is shown, a
confidential one is replaced by its redaction: a fixed marker and five digits of the digest of the
raw text, enough to tell two secrets apart and too few to guess them from.

`shown` writes a value for a reader, `outlined` with its structure. Both hide confidential parts;
in `outlined` this holds for the arms of a split too.
-/

namespace LiveConfig

/-- A bound of a range; a missing one is infinite. -/
def boundText (infinity : String) : Option Int64 → String
  | none => infinity
  | some n => Decimal.showInt n.toInt

/-- The text of a payload for hashing. -/
def Payload.rawText : Payload → String
  | int n => Decimal.showInt n.toInt
  | double x => Decimal.Style.plain.write x.toFloat
  | bool b => Text.boolText b
  | text s => s
  | texts list => "[" ++ " ".intercalate list ++ "]"
  | bytes bs => Hex.encode bs
  | duration definition => definition
  | logLevel level => level.name
  | json document => document
  | range r => "[" ++ boundText "-inf" r.lower ++ ", " ++ boundText "inf" r.upper ++ ")"
  | split s => "weighted(" ++ Decimal.showInt s.arms.length ++ ")"
  | provided p => "provided(" ++ p.name ++ ")"

/-- The number of digits of the digest that a redaction shows. -/
def redactionDigits : Nat := 5

/-- What is shown in place of a confidential text. -/
def redaction (raw : String) : String :=
  "*****" ++ String.ofList ((Hex.encode (Digest.Sha256.digest (Bytes.ofText raw))).toList.take
    redactionDigits)

namespace Value

/-- The text of a value for hashing, whether or not it is confidential. -/
def rawText (v : Value) : String :=
  v.payload.rawText

/-- The value as it may be reported: a confidential one becomes its redaction. -/
def redacted (v : Value) : Value :=
  if v.confidential then { payload := .text (redaction v.rawText), confidential := true } else v

/-- The text of a value as it may be shown. -/
def shown (v : Value) : String :=
  if v.confidential then redaction v.rawText else v.rawText

end Value

/-- A value that may be missing. -/
def optionalText {α : Type} (text : α → String) : Option α → String
  | none => "None"
  | some a => "Some(" ++ text a ++ ")"

/-- A list in brackets. -/
def listText (items : List String) : String :=
  "[" ++ ", ".intercalate items ++ "]"

/-- A record: its name and its fields in braces. -/
def recordText (name : String) (fields : List (String × String)) : String :=
  let body := ", ".intercalate (fields.map fun (field, text) => field ++ ": " ++ text)
  name ++ " \x7b " ++ body ++ " \x7d"

/-- The outline of a log level. -/
def LogLevel.outlined : LogLevel → String
  | trace => "Trace"
  | debug => "Debug"
  | info => "Info"
  | warn => "Warn"
  | error => "Error"
  | fatal => "Fatal"

/-- The outline of a range. -/
def IntRange.outlined (r : IntRange) : String :=
  let bound := optionalText fun n : Int64 => Decimal.showInt n.toInt
  recordText "IntRange" [("start", bound r.lower), ("end", bound r.upper)]

/-- The outline of a provided value. -/
def Provided.outlined (p : Provided) : String :=
  let origin := match p.origin with
    | .unset => "NotSet"
    | .environment => "EnvVar"
  recordText "Provided" [("source", origin), ("lookup", Text.quoted p.name)]

/-- The outline of a value whose payload has the given outline. -/
def valueOutline (payload : String) (confidential : Bool) (decryptWith : Option String) : String :=
  recordText "ConfigValue" [("value", payload), ("confidential", Text.boolText confidential),
    ("decrypt_with", optionalText Text.quoted decryptWith)]

mutual

/-- The outline of a payload. -/
def Payload.outlined : Payload → String
  | .int n => "Int(" ++ Decimal.showInt n.toInt ++ ")"
  | .double x => "Double(" ++ Decimal.Style.marked.write x.toFloat ++ ")"
  | .bool b => "Bool(" ++ Text.boolText b ++ ")"
  | .text s => "String(" ++ Text.quoted s ++ ")"
  | .texts list => "StringList(" ++ listText (list.map Text.quoted) ++ ")"
  | .bytes bs => "Bytes(" ++ listText (bs.map fun b => Decimal.showInt b.toNat) ++ ")"
  | .duration definition => "Duration(" ++ Text.quoted definition ++ ")"
  | .logLevel level => "LogLevel(" ++ level.outlined ++ ")"
  | .json document => "Json(" ++ Text.quoted document ++ ")"
  | .range r => "IntRange(" ++ r.outlined ++ ")"
  | .split ⟨arms, hashBy⟩ =>
    "WeightedValues(" ++ recordText "WeightedValues" [("values", listText (armsOutlined arms)),
      ("hash_by_property_name", optionalText Text.quoted hashBy)] ++ ")"
  | .provided p => "Provided(" ++ p.outlined ++ ")"
termination_by structural p => p

/-- The outline of a value, in which confidential parts are redacted. -/
def Value.outlined : Value → String
  | ⟨payload, confidential, decryptWith⟩ =>
    let text := if confidential then Text.quoted (redaction payload.rawText) else payload.outlined
    valueOutline text confidential decryptWith
termination_by structural v => v

/-- The outlines of the arms of a split. -/
def armsOutlined : List (Arm Value) → List String
  | [] => []
  | ⟨weight, value⟩ :: arms =>
    recordText "WeightedValue"
      [("weight", Decimal.showInt weight.toInt), ("value", value.outlined)] :: armsOutlined arms
termination_by structural arms => arms

end

end LiveConfig
