import LiveConfig.Decimal.Shortest
import LiveConfig.Text.Quoted

/-!
# YAML nodes

The content of a document after anchors and scalars have been resolved. A mapping keeps the order
of its entries. `Node.shown` is the form in which nodes appear inside messages.
-/

namespace LiveConfig.Yaml

/-- A number: whole and in 64 bits, or a float. -/
inductive Number where
  | natural (n : UInt64)
  /-- A number below zero. -/
  | negative (n : Int64)
  | float (x : Float)
deriving DecidableEq

namespace Number

/-- Floats end in `.0` if they are whole; exponents below `10 ^ -5` and from `10 ^ 16` on. -/
def style : Decimal.Style where
  leastPoint := some (-4)
  greatestPoint := some 16
  wholeMark := true
  nan := ".nan"
  infinity := ".inf"

/-- A number in text. -/
def text : Number → String
  | .natural n => Decimal.showInt n.toNat
  | .negative n => Decimal.showInt n.toInt
  | .float x => style.write x

/-- The signed 64-bit integer that a number is, if it is one. -/
def toInt64? : Number → Option Int64
  | .natural n => if n < 0x8000000000000000 then some n.toInt64 else none
  | .negative n => some n
  | .float _ => none

/-- The float nearest to a number. -/
def toFloat : Number → Float
  | .natural n => n.toFloat
  | .negative n => n.toFloat
  | .float x => x

/-- Equality as keys of a mapping: there is one number that is none. -/
def same : Number → Number → Bool
  | .float x, .float y => x == y || (x.isNaN && y.isNaN)
  | .natural m, .natural n => m == n
  | .negative m, .negative n => m == n
  | _, _ => false

end Number

/-- A node of a document. -/
inductive Node where
  | null
  | bool (b : Bool)
  | number (n : Number)
  | text (s : String)
  | sequence (items : List Node)
  | mapping (entries : List (Node × Node))
  /-- A node with a tag of the document's own. -/
  | tagged (tag : String) (content : Node)

namespace Node

mutual

/-- A node inside a message. -/
def shown : Node → String
  | .null => "Null"
  | .bool b => "Bool(" ++ Text.boolText b ++ ")"
  | .number n => "Number(" ++ n.text ++ ")"
  | .text s => "String(" ++ Text.quoted s ++ ")"
  | .sequence items => "Sequence [" ++ ", ".intercalate (showItems items) ++ "]"
  | .mapping entries => "Mapping \x7b" ++ ", ".intercalate (showEntries entries) ++ "\x7d"
  | .tagged tag content =>
    "TaggedValue \x7b tag: !" ++ tag ++ ", value: " ++ content.shown ++ " \x7d"

/-- The items of a sequence inside a message. -/
def showItems : List Node → List String
  | [] => []
  | item :: rest => item.shown :: showItems rest

/-- The entries of a mapping inside a message. -/
def showEntries : List (Node × Node) → List String
  | [] => []
  | (k, v) :: rest => (showKey k ++ ": " ++ v.shown) :: showEntries rest

/-- A key inside a message; the kind of a scalar is left out. -/
def showKey : Node → String
  | .bool b => Text.boolText b
  | .number n => n.text
  | .text s => Text.quoted s
  | .null => "Null"
  | .sequence items => "Sequence [" ++ ", ".intercalate (showItems items) ++ "]"
  | .mapping entries => "Mapping \x7b" ++ ", ".intercalate (showEntries entries) ++ "\x7d"
  | .tagged tag content =>
    "TaggedValue \x7b tag: !" ++ tag ++ ", value: " ++ content.shown ++ " \x7d"

end

mutual

/-- Equality as keys of a mapping: the order of entries does not count. -/
def same : Node → Node → Bool
  | .null, .null => true
  | .bool a, .bool b => a == b
  | .number m, .number n => m.same n
  | .text s, .text t => s == t
  | .sequence xs, .sequence ys => sameItems xs ys
  | .mapping xs, .mapping ys => xs.length == ys.length && sameEntries xs ys
  | .tagged s x, .tagged t y => s == t && x.same y
  | _, _ => false

/-- Equality item by item. -/
def sameItems : List Node → List Node → Bool
  | [], [] => true
  | x :: xs, y :: ys => x.same y && sameItems xs ys
  | _, _ => false

/-- Whether every entry of the first list stands in the second. -/
def sameEntries : List (Node × Node) → List (Node × Node) → Bool
  | [], _ => true
  | (k, v) :: rest, ys => ys.any (fun (k', v') => k.same k' && v.same v') && sameEntries rest ys

end

/-- The value of an entry whose key is the given text. -/
def entry? (name : String) : List (Node × Node) → Option Node
  | [] => none
  | (.text s, v) :: rest => if s = name then some v else entry? name rest
  | _ :: rest => entry? name rest

end Node

end LiveConfig.Yaml
