/-!
# Decimal digits

Numbers written with ASCII digits alone, leading zeros among them.
-/

namespace LiveConfig.Decimal

/-- The number that a non-empty run of digits denotes. -/
def readNat? (cs : List Char) : Option Nat :=
  if cs ≠ [] ∧ cs.all Char.isDigit then some (Nat.ofDigitChars 10 cs 0) else none

/-- The number that a run of digits denotes, if it fits 64 bits. -/
def readUInt64? (cs : List Char) : Option UInt64 :=
  (readNat? cs).bind fun n => if n < UInt64.size then some (UInt64.ofNat n) else none

/-- The number that an optional sign and a run of digits denote. -/
def readInt? (cs : List Char) : Option Int :=
  match cs with
  | '-' :: rest => (readNat? rest).map fun n => -(n : Int)
  | '+' :: rest => (readNat? rest).map Int.ofNat
  | rest => (readNat? rest).map Int.ofNat

/-- The signed number that a text denotes, if it fits 64 bits. -/
def readInt64? (cs : List Char) : Option Int64 :=
  (readInt? cs).bind fun n =>
    if Int64.minValue.toInt ≤ n ∧ n ≤ Int64.maxValue.toInt then some (Int64.ofInt n) else none

/-- The digits of a number, preceded by zeros up to the given width. -/
def padded (width n : Nat) : List Char :=
  let digits := Nat.toDigits 10 n
  List.replicate (width - digits.length) '0' ++ digits

/-- The signed number in decimal. -/
def showInt (n : Int) : String :=
  if n < 0 then String.ofList ('-' :: Nat.toDigits 10 n.natAbs)
  else String.ofList (Nat.toDigits 10 n.natAbs)

end LiveConfig.Decimal
