import LiveConfig.Error
import LiveConfig.Wire.Field

/-!
# Values on the wire

A value is written as a message whose content is one of twelve fields; of several, the last one
counts. Where a nested message occurs repeatedly, its occurrences are merged.

`Value.fields` gives the fields of a value and `ValueMessage.merge?` collects fields into a message
whose parts may be missing. `ValueMessage.toValue` turns a message into a value and refuses what
breaks the rules of a value.
-/

namespace LiveConfig

namespace Wire

mutual

/-- The content of a value as it stands on the wire. -/
inductive ValueContent where
  | int (n : Int64)
  | text (s : String)
  | bytes (bs : Bytes)
  | double (x : Double)
  | bool (b : Bool)
  | split (s : Split (Option ValueMessage))
  | logLevel (number : Int32)
  | texts (list : List String)
  | range (r : IntRange)
  | provided (source : Option Int32) (name : Option String)
  | json (document : String)
  | duration (definition : String)

/-- A value of which parts may be missing. -/
structure ValueMessage where
  content : Option ValueContent := none
  confidential : Option Bool := none
  decryptWith : Option String := none

end

/-- The numbers that stand for the levels. -/
def levelNumber : LogLevel → Int32
  | .trace => 1
  | .debug => 2
  | .info => 3
  | .warn => 5
  | .error => 6
  | .fatal => 9

/-- The level that a number stands for. -/
def levelOfNumber? (number : Int32) : Option LogLevel :=
  LogLevel.all.find? fun level => levelNumber level == number

/-- The numbers that stand for the origins. -/
def originNumber : Origin → Int32
  | .unset => 0
  | .environment => 1

/-- The origin that a number stands for; a number without meaning stands for none. -/
def originOfNumber (number : Option Int32) : Origin :=
  if number = some 1 then .environment else .unset

/-- Merges a field into a message that holds one text in its first field. -/
def mergeText? (depth : Nat) (s : String) (f : Field) : Option String :=
  match f.number with
  | 1 => f.text?
  | _ => pass? depth s

/-- Merges a field into a list of texts. -/
def mergeTexts? (depth : Nat) (list : List String) (f : Field) : Option (List String) :=
  match f.number with
  | 1 => f.text?.map fun s => list ++ [s]
  | _ => pass? depth list

/-- Merges a field into a range. -/
def mergeRange? (depth : Nat) (r : IntRange) (f : Field) : Option IntRange :=
  match f.number with
  | 1 => f.int64?.map fun n => { r with lower := some n }
  | 2 => f.int64?.map fun n => { r with upper := some n }
  | _ => pass? depth r

/-- Merges a field into the source and the name of a provided value. -/
def mergeProvided? (depth : Nat) (p : Option Int32 × Option String) (f : Field) :
    Option (Option Int32 × Option String) :=
  match f.number with
  | 1 => f.int32?.map fun n => (some n, p.2)
  | 2 => f.text?.map fun s => (p.1, some s)
  | _ => pass? depth p

namespace ValueContent

/-- The split to merge into: the one held, or an empty one. -/
def splitSoFar : Option ValueContent → Split (Option ValueMessage)
  | some (split s) => s
  | _ => { arms := [] }

/-- The list of texts to merge into. -/
def textsSoFar : Option ValueContent → List String
  | some (texts list) => list
  | _ => []

/-- The range to merge into. -/
def rangeSoFar : Option ValueContent → IntRange
  | some (range r) => r
  | _ => {}

/-- The provided value to merge into. -/
def providedSoFar : Option ValueContent → Option Int32 × Option String
  | some (provided source name) => (source, name)
  | _ => (none, none)

/-- The JSON document to merge into. -/
def jsonSoFar : Option ValueContent → String
  | some (json document) => document
  | _ => ""

/-- The duration to merge into. -/
def durationSoFar : Option ValueContent → String
  | some (duration definition) => definition
  | _ => ""

end ValueContent

/-- Merges a field that holds no split into a value. -/
def ValueMessage.mergeLeaf? (depth : Nat) (v : ValueMessage) (f : Field) : Option ValueMessage :=
  match f.number with
  | 1 => f.int64?.map fun n => { v with content := some (.int n) }
  | 2 => f.text?.map fun s => { v with content := some (.text s) }
  | 3 => f.bytes?.map fun bs => { v with content := some (.bytes bs) }
  | 4 => f.double?.map fun x => { v with content := some (.double x) }
  | 5 => f.bool?.map fun b => { v with content := some (.bool b) }
  | 9 => f.int32?.map fun n => { v with content := some (.logLevel n) }
  | 10 => (nest? noneForced depth mergeTexts? (ValueContent.textsSoFar v.content) f).map fun list =>
    { v with content := some (.texts list) }
  | 11 => (nest? noneForced depth mergeRange? (ValueContent.rangeSoFar v.content) f).map fun r =>
    { v with content := some (.range r) }
  | 12 =>
    (nest? noneForced depth mergeProvided? (ValueContent.providedSoFar v.content) f).map
      fun (source, name) => { v with content := some (.provided source name) }
  | 13 => f.bool?.map fun b => { v with confidential := some b }
  | 14 => f.text?.map fun s => { v with decryptWith := some s }
  | 15 => (nest? noneForced depth mergeText? (ValueContent.jsonSoFar v.content) f).map fun s =>
    { v with content := some (.json s) }
  | 16 => (nest? noneForced depth mergeText? (ValueContent.durationSoFar v.content) f).map fun s =>
    { v with content := some (.duration s) }
  | _ => pass? depth v

mutual

/-- Merges a field into a value. -/
def ValueMessage.merge? (depth : Nat) (v : ValueMessage) (f : Field) : Option ValueMessage :=
  if f.number = 6 then
    match depth with
    | 0 => none
    | depth + 1 => do
      let fields ← f.bytes?.bind (readAll? noneForced depth)
      let s ← fields.foldlM (fun s f => mergeSplit? depth s f) (ValueContent.splitSoFar v.content)
      some { v with content := some (.split s) }
  else v.mergeLeaf? depth f
termination_by structural depth

/-- Merges a field into a split. -/
def mergeSplit? (depth : Nat) (s : Split (Option ValueMessage)) (f : Field) :
    Option (Split (Option ValueMessage)) :=
  match f.number with
  | 1 =>
    match depth with
    | 0 => none
    | depth + 1 => do
      let fields ← f.bytes?.bind (readAll? noneForced depth)
      let arm ← fields.foldlM (fun arm f => mergeArm? depth arm f) ⟨0, none⟩
      some { s with arms := s.arms ++ [arm] }
  | 2 => f.text?.map fun property => { s with hashBy := some property }
  | _ => pass? depth s
termination_by structural depth

/-- Merges a field into an arm of a split. -/
def mergeArm? (depth : Nat) (arm : Arm (Option ValueMessage)) (f : Field) :
    Option (Arm (Option ValueMessage)) :=
  match f.number with
  | 1 => f.int32?.map fun weight => { arm with weight }
  | 2 =>
    match depth with
    | 0 => none
    | depth + 1 => do
      let fields ← f.bytes?.bind (readAll? noneForced depth)
      let v ← fields.foldlM (fun v f => ValueMessage.merge? depth v f) (arm.value.getD {})
      some { arm with value := some v }
  | _ => pass? depth arm
termination_by structural depth

end

mutual

/-- The fields of a payload. -/
def payloadField : Payload → Field
  | .int n => .ofInt64 1 n
  | .text s => .ofText 2 s
  | .bytes bs => .ofBytes 3 bs
  | .double x => .ofDouble 4 x
  | .bool b => .ofBool 5 b
  | .split ⟨arms, hashBy⟩ => .ofMessage 6 (armFields arms ++ optional (.ofText 2) hashBy)
  | .logLevel level => .ofInt32 9 (levelNumber level)
  | .texts list => .ofMessage 10 (list.map (.ofText 1))
  | .range r => .ofMessage 11 (optional (.ofInt64 1) r.lower ++ optional (.ofInt64 2) r.upper)
  | .provided p => .ofMessage 12 [.ofInt32 1 (originNumber p.origin), .ofText 2 p.name]
  | .json document => .ofMessage 15 (unlessDefault "" (.ofText 1) document)
  | .duration definition => .ofMessage 16 (unlessDefault "" (.ofText 1) definition)
termination_by structural p => p

/-- The fields of a value. Its marks are written where they are set. -/
def valueFields : Value → List Field
  | ⟨payload, confidential, decryptWith⟩ =>
    payloadField payload :: (if confidential then [.ofBool 13 true] else []) ++
      optional (.ofText 14) decryptWith
termination_by structural v => v

/-- The fields of the arms of a split. -/
def armFields : List (Arm Value) → List Field
  | [] => []
  | ⟨weight, value⟩ :: arms =>
    .ofMessage 1 (unlessDefault 0 (.ofInt32 1) weight ++ [.ofMessage 2 (valueFields value)]) ::
      armFields arms
termination_by structural arms => arms

end

/-- A split whose weights can decide. -/
def checkedSplit (s : Split Value) : Except ConfigFault (Split Value) :=
  match s.fault? with
  | none => .ok s
  | some fault => .error (.split fault)

mutual

/-- The payload of a message's content. -/
def ValueContent.toPayload : ValueContent → Except ConfigFault Payload
  | .int n => .ok (.int n)
  | .text s => .ok (.text s)
  | .bytes bs => .ok (.bytes bs)
  | .double x => .ok (.double x)
  | .bool b => .ok (.bool b)
  | .split ⟨arms, hashBy⟩ => do
    let arms ← armsOfMessages arms
    return .split (← checkedSplit ⟨arms, hashBy⟩)
  | .logLevel number =>
    match levelOfNumber? number with
    | some level => .ok (.logLevel level)
    | none => .error (.unknownLevel number)
  | .texts list => .ok (.texts list)
  | .range r => .ok (.range r)
  | .provided source name => .ok (.provided ⟨originOfNumber source, name.getD ""⟩)
  | .json document => .ok (.json document)
  | .duration definition => .ok (.duration definition)
termination_by structural c => c

/-- The value of a message. A mark that names no config is no mark. -/
def ValueMessage.toValue : ValueMessage → Except ConfigFault Value
  | ⟨none, _, _⟩ => .error .valueWithoutType
  | ⟨some content, confidential, decryptWith⟩ => do
    let payload ← content.toPayload
    return { payload
             confidential := confidential.getD false
             decryptWith := decryptWith.filter (· ≠ "") }
termination_by structural v => v

/-- The arms of a split, each of which needs a value. -/
def armsOfMessages : List (Arm (Option ValueMessage)) → Except ConfigFault (List (Arm Value))
  | [] => .ok []
  | ⟨_, none⟩ :: _ => .error .armWithoutValue
  | ⟨weight, some v⟩ :: arms => do
    let value ← v.toValue
    let arms ← armsOfMessages arms
    return ⟨weight, value⟩ :: arms
termination_by structural arms => arms

end

end Wire

/-- The bytes of a value. -/
def Value.encode (v : Value) : Bytes :=
  Wire.writeAll (Wire.valueFields v)

/-- Reads the bytes of a value, which may still break the rules of one. -/
def Value.decode? (bs : Bytes) : Option (Except ConfigFault Value) :=
  (Wire.decode? Wire.ValueMessage.merge? {} bs).map Wire.ValueMessage.toValue

end LiveConfig
