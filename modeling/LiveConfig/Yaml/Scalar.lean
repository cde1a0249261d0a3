import LiveConfig.Decimal.Real
import LiveConfig.Yaml.Node

/-!
# Plain scalars

What an unquoted scalar stands for: null, a truth value, a number, or its own text. Whole numbers
may be written in base 2, 8, 10 or 16. A number with zeros in front of its digits is a text, and a
whole number that needs between 65 and 128 bits is refused.
-/

namespace LiveConfig.Yaml

/-- Drops a word from the front. -/
def dropFront? (word : String) (cs : List Char) : Option (List Char) :=
  if word.toList.isPrefixOf cs then some (cs.drop word.length) else none

/-- The number that a digit of a base up to sixteen denotes. -/
def digitIn? (base : Nat) (c : Char) : Option Nat :=
  let n := c.toNat
  let value? :=
    if 48 ≤ n ∧ n ≤ 57 then some (n - 48)
    else if 97 ≤ n ∧ n ≤ 122 then some (n - 87)
    else if 65 ≤ n ∧ n ≤ 90 then some (n - 55)
    else none
  value?.filter (· < base)

/-- The number that a non-empty run of digits denotes in a base. -/
def readBase? (base : Nat) (cs : List Char) : Option Nat :=
  if cs.isEmpty then none
  else cs.foldlM (fun n c => (digitIn? base c).map (n * base + ·)) 0

/-- Whether a character is a sign. -/
def isSign (c : Char) : Bool :=
  c == '+' || c == '-'

/-- Whether a text consists of a zero and more digits, after at most one sign. -/
def hasLeadingZero (cs : List Char) : Bool :=
  let digits := match cs with
    | c :: rest => if isSign c then rest else cs
    | [] => []
  match digits with
  | '0' :: next :: rest => (next :: rest).all Char.isDigit
  | _ => false

/-- Whether a text starts with a sign. -/
def startsWithSign (cs : List Char) : Bool :=
  cs.head?.any isSign

/-- The bases that a number may be marked with. -/
def markedBases : List (String × Nat) :=
  [("0x", 16), ("0o", 8), ("0b", 2)]

/-- Tries the marked bases in turn. A sign after a mark ends the search for a number of either
kind; the outer result tells whether the search may go on. -/
def readMarked? (limit : Nat) (cs : List Char) : List (String × Nat) → Option (Option Nat)
  | [] => some none
  | (mark, base) :: more =>
    match dropFront? mark cs with
    | none => readMarked? limit cs more
    | some digits =>
      if startsWithSign digits then none
      else match (readBase? base digits).filter (· < limit) with
        | some n => some (some n)
        | none => readMarked? limit cs more

/-- A whole number without a minus sign, below the limit. -/
def readUnsigned? (limit : Nat) (cs : List Char) : Option Nat :=
  let body := match cs with
    | '+' :: rest => rest
    | _ => cs
  match readMarked? limit body markedBases with
  | none => none
  | some (some n) => some n
  | some none =>
    if startsWithSign body || hasLeadingZero cs then none
    else (readBase? 10 body).filter (· < limit)

/-- The digits of a negative number in a marked base. -/
def readMarkedNegative? (limit : Nat) (cs : List Char) : List (String × Nat) → Option Nat
  | [] => none
  | (mark, base) :: more =>
    match (dropFront? ("-" ++ mark) cs).bind (readBase? base) with
    | some n => if n ≤ limit then some n else readMarkedNegative? limit cs more
    | none => readMarkedNegative? limit cs more

/-- A whole number with a minus sign, at most the limit below zero; its absolute value. -/
def readNegative? (limit : Nat) (cs : List Char) : Option Nat :=
  match readMarkedNegative? limit cs markedBases with
  | some n => some n
  | none =>
    if hasLeadingZero cs then none
    else match cs with
      | '-' :: digits => (readBase? 10 digits).filter (· ≤ limit)
      | _ => none

/-- What the digits of a scalar give: a number, a number that is too wide, or none. -/
inductive WholeNumber where
  | fits (n : Number)
  | tooWide
  | none

/-- The whole number that a scalar denotes. -/
def readWhole (cs : List Char) : WholeNumber :=
  match readUnsigned? UInt64.size cs with
  | some n => .fits (.natural (UInt64.ofNat n))
  | none =>
    match readNegative? (1 <<< 63) cs with
    | some 0 => .fits (.natural 0)
    | some n => .fits (.negative (Int64.ofInt (-n)))
    | none =>
      let readsWider :=
        (readUnsigned? (1 <<< 128) cs).isSome || (readNegative? (1 <<< 127) cs).isSome
      if readsWider then .tooWide else .none

/-- The value that is no number. -/
def notANumber : Float :=
  Float.ofBits 0x7ff8000000000000

/-- The value above all numbers. -/
def infinity : Float :=
  Float.ofBits 0x7ff0000000000000

/-- The float that a scalar denotes. Names of infinity begin with a point; digits must denote a
finite number. -/
def readScalarFloat? (cs : List Char) : Option Float :=
  let body? := match cs with
    | '+' :: rest => if startsWithSign rest then none else some rest
    | _ => some cs
  body?.bind fun body =>
    let name := String.ofList body
    let whole := String.ofList cs
    if name = ".inf" ∨ name = ".Inf" ∨ name = ".INF" then some infinity
    else if whole = "-.inf" ∨ whole = "-.Inf" ∨ whole = "-.INF" then some (-infinity)
    else if whole = ".nan" ∨ whole = ".NaN" ∨ whole = ".NAN" then some notANumber
    else ((Decimal.readDouble? body).map Double.toFloat).filter Float.isFinite

/-- Whether a scalar is a name of null. -/
def isNull (s : String) : Bool :=
  s = "null" || s = "Null" || s = "NULL" || s = "~"

/-- The truth value that a scalar names. -/
def readBool? (s : String) : Option Bool :=
  if s = "true" ∨ s = "True" ∨ s = "TRUE" then some true
  else if s = "false" ∨ s = "False" ∨ s = "FALSE" then some false
  else none

/-- What an unquoted scalar stands for. -/
def resolvePlain? (s : String) : Option Node :=
  if s.isEmpty || isNull s then some .null
  else match readBool? s with
    | some b => some (.bool b)
    | none =>
      match readWhole s.toList with
      | .fits n => some (.number n)
      | .tooWide => none
      | .none =>
        if hasLeadingZero s.toList then some (.text s)
        else match readScalarFloat? s.toList with
          | some x => some (.number (.float x))
          | none => some (.text s)

/-- What a scalar with a tag of the core schema stands for; any other tag leaves its text. -/
def resolveTagged? (tag s : String) : Option Node :=
  if tag = "tag:yaml.org,2002:bool" then (readBool? s).map .bool
  else if tag = "tag:yaml.org,2002:int" then
    match readWhole s.toList with
    | .fits n => some (.number n)
    | _ => none
  else if tag = "tag:yaml.org,2002:float" then
    (readScalarFloat? s.toList).map fun x => .number (.float x)
  else if tag = "tag:yaml.org,2002:null" then if isNull s then some .null else none
  else some (.text s)

end LiveConfig.Yaml
