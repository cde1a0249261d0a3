import LiveConfig.Decimal.Digits
import LiveConfig.Double

/-!
# Reading floats

An optional sign, then digits with at most one point among them and at least one digit, then
optionally an exponent; or the names of infinity and of the number that is none. The result is
the float nearest to the number written.
-/

namespace LiveConfig.Decimal

/-- The longest run of digits, and what follows it. -/
def spanDigits (cs : List Char) : List Char × List Char :=
  (cs.takeWhile Char.isDigit, cs.dropWhile Char.isDigit)

/-- The exponent written after the digits, zero if there is none. -/
def readExponent? (cs : List Char) : Option Int :=
  match cs with
  | [] => some 0
  | e :: rest => if e = 'e' ∨ e = 'E' then readInt? rest else none

/-- The float nearest to `n · 10 ^ exponent`. -/
def nearestFloat (n : Nat) (exponent : Int) : Float :=
  Float.ofScientific n (exponent < 0) exponent.natAbs

/-- An unsigned float in digits. -/
def readUnsignedFloat? (cs : List Char) : Option Float :=
  let (whole, rest) := spanDigits cs
  let (fraction, rest) := match rest with
    | '.' :: rest => spanDigits rest
    | rest => ([], rest)
  if whole.isEmpty && fraction.isEmpty then none
  else (readExponent? rest).map fun exponent =>
    nearestFloat (Nat.ofDigitChars 10 (whole ++ fraction) 0) (exponent - fraction.length)

/-- The names of values that have no digits, in any case. -/
def readFloatName? (cs : List Char) : Option Float :=
  match String.ofList (cs.map Char.toLower) with
  | "inf" => some (1.0 / 0.0)
  | "infinity" => some (1.0 / 0.0)
  | "nan" => some (0.0 / 0.0)
  | _ => none

/-- The double that a text denotes. The sign is that of the text, also for what is no number. -/
def readDouble? (cs : List Char) : Option Double :=
  let unsigned (cs : List Char) :=
    ((readFloatName? cs).or (readUnsignedFloat? cs)).map Double.ofFloat
  match cs with
  | '-' :: rest => (unsigned rest).map Double.negate
  | '+' :: rest => unsigned rest
  | rest => unsigned rest

end LiveConfig.Decimal
