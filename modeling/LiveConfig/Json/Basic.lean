import LiveConfig.Decimal.Shortest

/-!
# JSON documents

An object keeps its members in ascending order of their names, each name once. `Json.render`
writes a document without blanks.
-/

namespace LiveConfig

/-- A number of a document: a whole one that fits 64 bits, or a float. -/
inductive Json.Number where
  | natural (n : UInt64)
  | negative (n : Int64)
  | float (x : Float)
deriving DecidableEq

/-- A document. -/
inductive Json where
  | null
  | bool (b : Bool)
  | number (n : Json.Number)
  | text (s : String)
  | array (items : List Json)
  | object (members : List (String × Json))

namespace Json

/-- Adds a member to an object, in the place of one with the same name. -/
def insertMember (name : String) (value : Json) :
    List (String × Json) → List (String × Json)
  | [] => [(name, value)]
  | (other, v) :: rest =>
    if name < other then (name, value) :: (other, v) :: rest
    else if name = other then (name, value) :: rest
    else (other, v) :: insertMember name value rest

/-- An object with the given members, of which the last one of a name counts. -/
def ofMembers (members : List (String × Json)) : Json :=
  .object (members.foldl (fun acc (name, value) => insertMember name value acc) [])

/-- Floats end in `.0` if they are whole; exponents below `10 ^ -5` and from `10 ^ 16` on, with a
sign. -/
def numberStyle : Decimal.Style where
  leastPoint := some (-4)
  greatestPoint := some 16
  wholeMark := true
  plusMark := true

/-- A number in a document. -/
def Number.render : Number → String
  | .natural n => Decimal.showInt n.toNat
  | .negative n => Decimal.showInt n.toInt
  | .float x => numberStyle.write x

/-- One character inside the quotes of a text. -/
def escapedChar (c : Char) : List Char :=
  match c with
  | '"' => ['\\', '"']
  | '\\' => ['\\', '\\']
  | '\x08' => ['\\', 'b']
  | '\x0c' => ['\\', 'f']
  | '\n' => ['\\', 'n']
  | '\r' => ['\\', 'r']
  | '\t' => ['\\', 't']
  | c =>
    if c.toNat < 0x20 then
      ['\\', 'u', '0', '0', (c.toNat / 16).digitChar, (c.toNat % 16).digitChar]
    else [c]

/-- A text between quotes. -/
def renderText (s : String) : String :=
  String.ofList ('"' :: s.toList.flatMap escapedChar ++ ['"'])

mutual

/-- A document without blanks. -/
def render : Json → String
  | .null => "null"
  | .bool true => "true"
  | .bool false => "false"
  | .number n => n.render
  | .text s => renderText s
  | .array items => "[" ++ renderItems items ++ "]"
  | .object members => "\x7b" ++ renderMembers members ++ "\x7d"

/-- The items of an array between commas. -/
def renderItems : List Json → String
  | [] => ""
  | [item] => item.render
  | item :: rest => item.render ++ "," ++ renderItems rest

/-- The members of an object between commas. -/
def renderMembers : List (String × Json) → String
  | [] => ""
  | [(name, value)] => renderText name ++ ":" ++ value.render
  | (name, value) :: rest => renderText name ++ ":" ++ value.render ++ "," ++ renderMembers rest

end

end Json

end LiveConfig
