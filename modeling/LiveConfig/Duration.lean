import LiveConfig.Decimal.Digits
import LiveConfig.Text.Blank

/-!
# Durations

A duration is written `P`, components of years, months, weeks and days, then `T` and components
of hours, minutes and seconds. Every component may repeat, stand in any order on its side of the
`T`, and carry a fraction after a point or a comma. A year counts 365 days and a month 30.

`Duration.parse` reads such a text and `Duration.render` writes one.
-/

namespace LiveConfig

/-- A span of time: whole seconds, and the nanoseconds beyond them. -/
structure Duration where
  secs : UInt64
  nanos : Nat
  nanos_lt : nanos < 1000000000 := by decide
deriving DecidableEq

namespace Duration

/-- Seconds and any number of nanoseconds, unless the carry leaves the range of seconds. -/
def ofParts? (secs nanos : UInt64) : Option Duration :=
  if secs.toNat + nanos.toNat / 1000000000 < UInt64.size then
    some { secs := secs + nanos / 1000000000
           nanos := nanos.toNat % 1000000000
           nanos_lt := Nat.mod_lt _ (by decide) }
  else none

/-- The whole number of milliseconds. -/
def ofMillis (n : UInt64) : Duration where
  secs := n / 1000
  nanos := (n.toNat % 1000) * 1000000
  nanos_lt := by omega

/-- The length in nanoseconds. -/
def totalNanos (d : Duration) : Nat :=
  d.secs.toNat * 1000000000 + d.nanos

/-- Why a text gives no duration. -/
inductive ReadError where
  /-- The text does not follow the format, or one of its components is out of range. -/
  | malformed
  /-- The fractions carry the sum past the last second that can be represented. -/
  | tooLong
deriving DecidableEq, Repr

/-- The units that a component may carry. -/
inductive Scale where
  | years | months | weeks | days | hours | minutes | seconds
deriving DecidableEq, Repr

/-- The seconds in one unit. -/
def Scale.length : Scale → UInt64
  | .years => 31536000
  | .months => 2592000
  | .weeks => 604800
  | .days => 86400
  | .hours => 3600
  | .minutes => 60
  | .seconds => 1

/-- The unit that a letter names, before or after the time marker. -/
def Scale.ofLetter? (inTime : Bool) (letter : Char) : Option Scale :=
  match inTime, letter.toUpper with
  | false, 'Y' => some .years
  | false, 'M' => some .months
  | false, 'W' => some .weeks
  | false, 'D' => some .days
  | true, 'H' => some .hours
  | true, 'M' => some .minutes
  | true, 'S' => some .seconds
  | _, _ => none

/-- The whole part of a number, and the digits of its fraction if it has one. The whole part may
be missing before a point; the fraction may not be missing after one. -/
def readNumber? (number : List Char) : Option (UInt64 × Option (List Char)) :=
  match Text.splitFirst '.' number with
  | none => (Decimal.readUInt64? number).map (·, none)
  | some (before, after) => do
    let whole ← if before.isEmpty then some 0 else Decimal.readUInt64? before
    if after.isEmpty || after.contains '.' then none else some (whole, some after)

/-- The first nine digits of a fraction of a second, as nanoseconds. -/
def secondFraction (digits : List Char) : UInt64 :=
  let nine := digits.take 9
  UInt64.ofNat (Nat.ofDigitChars 10 (nine ++ List.replicate (9 - nine.length) '0') 0)

/-- The nearest whole number to a non-negative one, halves upward. -/
def nearest (x : Float) : UInt64 :=
  let floor := x.toUInt64
  if x - floor.toFloat ≥ 0.5 then floor + 1 else floor

/-- The whole seconds and the nanoseconds in a fraction of a unit, in binary64 arithmetic. -/
def scaledFraction (digits : List Char) (scale : Scale) : UInt64 × UInt64 :=
  let extra := Float.ofScientific (Nat.ofDigitChars 10 digits 0) true digits.length *
    scale.length.toFloat
  let whole := extra.toUInt64
  (whole, nearest ((extra - whole.toFloat) * 1000000000.0))

/-- What has been read of a text: the sums so far, whether the time marker has been met, the
number that waits for its unit, and whether any component is complete. -/
structure Reading where
  secs : UInt64 := 0
  nanos : UInt64 := 0
  inTime : Bool := false
  number : List Char := []
  anyComponent : Bool := false

/-- Adds the waiting number in the given unit. The whole part must leave the sum in range; the
sums of fractions are 64-bit words. -/
def Reading.close? (r : Reading) (scale : Scale) : Option Reading := do
  let (whole, fraction) ← readNumber? r.number
  let total := r.secs.toNat + whole.toNat * scale.length.toNat
  if total < UInt64.size then
    let secs := UInt64.ofNat total
    let (moreSecs, moreNanos) := match fraction with
      | none => (0, 0)
      | some digits =>
        if scale = .seconds then (0, secondFraction digits) else scaledFraction digits scale
    some { secs := secs + moreSecs, nanos := r.nanos + moreNanos, inTime := r.inTime,
           number := [], anyComponent := true }
  else none

/-- Reads one character of the text after the leading `P`. -/
def Reading.step? (r : Reading) (c : Char) : Option Reading :=
  if c.isDigit || c = '.' then some { r with number := r.number ++ [c] }
  else if c = ',' then some { r with number := r.number ++ ['.'] }
  else if c = 'T' || c = 't' then
    if r.inTime || !r.number.isEmpty then none else some { r with inTime := true }
  else if r.number.isEmpty then none
  else (Scale.ofLetter? r.inTime c).bind r.close?

/-- The duration that a complete reading denotes. -/
def Reading.finish (r : Reading) : Except ReadError Duration :=
  if !r.number.isEmpty || !r.anyComponent then .error .malformed
  else match ofParts? r.secs r.nanos with
    | some d => .ok d
    | none => .error .tooLong

/-- Reads the characters after the leading `P`. -/
def parseBody (body : List Char) : Except ReadError Duration :=
  match body.foldlM Reading.step? {} with
  | some r => r.finish
  | none => .error .malformed

/-- Reads a duration, with blanks allowed around it. -/
def parse (text : String) : Except ReadError Duration :=
  match Text.trimChars text.toList with
  | 'P' :: body => parseBody body
  | 'p' :: body => parseBody body
  | _ => .error .malformed

/-- The digits of a fraction with the given number of places, without trailing zeros. -/
def fractionDigits (places fraction : Nat) : List Char :=
  ((Decimal.padded places fraction).reverse.dropWhile (· == '0')).reverse

/-- Writes a duration in seconds, with a fraction where there is one. -/
def render (d : Duration) : String :=
  let whole := Nat.toDigits 10 d.secs.toNat
  if d.nanos = 0 then String.ofList (['P', 'T'] ++ whole ++ ['S'])
  else String.ofList (['P', 'T'] ++ whole ++ ['.'] ++ fractionDigits 9 d.nanos ++ ['S'])

end Duration

end LiveConfig
