import LiveConfig.Decimal.Digits

/-!
# Shortest decimal text of a float

A finite float is `m · 2 ^ q`. Every real number nearer to it than to its neighbours rounds to it,
and so do the two midpoints when `m` is even. Among the decimals in that interval the ones with the
fewest digits are preferred, and of these the nearest to the float.

All arithmetic is exact: a number `m · 2 ^ q` with negative `q` is `m · 5 ^ (-q)` in units of
`10 ^ q`.
-/

namespace LiveConfig.Decimal

/-- The interval that rounds to a float, and the float itself, in units of `10 ^ exponent`. -/
structure Interval where
  low : Nat
  value : Nat
  high : Nat
  closed : Bool
  exponent : Int

/-- The interval of `m · 2 ^ q`. Below a power of two the neighbour is only half as far away,
unless it is the least one that has a full significand. -/
def Interval.around (m : Nat) (q : Int) : Interval :=
  let lowGap := if m = 1 <<< 52 ∧ q > -1074 then 1 else 2
  let scale := if q ≥ 2 then Nat.pow 2 (q - 2).toNat else Nat.pow 5 (2 - q).toNat
  { low := (4 * m - lowGap) * scale
    value := 4 * m * scale
    high := (4 * m + 2) * scale
    closed := m % 2 == 0
    exponent := if q ≥ 2 then 0 else q - 2 }

/-- Whether a number of the interval's units lies in it. -/
def Interval.holds (i : Interval) (n : Nat) : Bool :=
  if i.closed then i.low ≤ n && n ≤ i.high else i.low < n && n < i.high

/-- The nearest number of the interval that is a multiple of `10 ^ drop`, divided by it. -/
def Interval.nearestMultiple? (i : Interval) (drop : Nat) : Option Nat :=
  let grid := Nat.pow 10 drop
  let below := i.value / grid
  let belowHeld := i.holds (below * grid)
  let aboveHeld := i.holds ((below + 1) * grid)
  if belowHeld && (!aboveHeld || 2 * (i.value - below * grid) ≤ grid) then some below
  else if aboveHeld then some (below + 1)
  else none

/-- Tries to keep fewer digits first; `drop` digits are dropped in the first attempt. -/
def Interval.coarsest (i : Interval) : Nat → Nat × Nat
  | 0 => (i.value, 0)
  | drop + 1 =>
    match i.nearestMultiple? (drop + 1) with
    | some n => (n, drop + 1)
    | none => i.coarsest drop

/-- Digits and exponent without trailing zeros among the digits; `fuel` bounds their number. -/
def stripZeros (n : Nat) (exponent : Int) : Nat → Nat × Int
  | 0 => (n, exponent)
  | fuel + 1 =>
    if n ≠ 0 ∧ n % 10 = 0 then stripZeros (n / 10) (exponent + 1) fuel else (n, exponent)

/-- The shortest decimal `digits · 10 ^ exponent` that rounds to `m · 2 ^ q`. -/
def shortest (m : Nat) (q : Int) : Nat × Int :=
  let i := Interval.around m q
  let length := (Nat.toDigits 10 i.value).length
  let (n, drop) := i.coarsest length
  stripZeros n (i.exponent + drop) length

/-- How floats are written: where positional notation ends, and the marks around it. -/
structure Style where
  /-- Positional only if the decimal point stands after this many digits at least; digits before
  the first significant one count as negative. -/
  leastPoint : Option Int := none
  /-- Positional only if the decimal point stands after this many digits at most. -/
  greatestPoint : Option Int := none
  /-- Whether whole numbers in positional notation end in `.0`. -/
  wholeMark : Bool := false
  /-- Whether a positive exponent carries a sign. -/
  plusMark : Bool := false
  nan : String := "NaN"
  infinity : String := "inf"

/-- Positional notation always, and whole numbers without a point. -/
def Style.plain : Style := {}

/-- Whole numbers end in `.0`; exponents below `10 ^ -4` and from `10 ^ 16` on. -/
def Style.marked : Style where
  leastPoint := some (-3)
  greatestPoint := some 16
  wholeMark := true

/-- Positional notation of digits whose decimal point stands after `point` of them. -/
def positional (wholeMark : Bool) (digits : List Char) (point : Int) : List Char :=
  if point ≤ 0 then ['0', '.'] ++ List.replicate point.natAbs '0' ++ digits
  else if point.toNat < digits.length then
    digits.take point.toNat ++ ['.'] ++ digits.drop point.toNat
  else
    digits ++ List.replicate (point.toNat - digits.length) '0' ++
      (if wholeMark then ['.', '0'] else [])

/-- Scientific notation: one digit before the point, and no point after a single digit. -/
def scientific (plusMark : Bool) (digits : List Char) (exponent : Int) : List Char :=
  let mantissa := match digits with
    | d :: e :: rest => d :: '.' :: e :: rest
    | ds => ds
  let sign := if exponent < 0 then ['-'] else if plusMark then ['+'] else []
  mantissa ++ ['e'] ++ sign ++ Nat.toDigits 10 exponent.natAbs

/-- The digits of a positive number in the given style. -/
def Style.writePositive (style : Style) (n : Nat) (exponent : Int) : List Char :=
  let digits := Nat.toDigits 10 n
  let point := digits.length + exponent
  if style.leastPoint.all (· ≤ point) && style.greatestPoint.all (point ≤ ·) then
    positional style.wholeMark digits point
  else scientific style.plusMark digits (point - 1)

/-- A float in the given style. -/
def Style.write (style : Style) (x : Float) : String :=
  let signed (sign : Float.Model.UnpackedFloat.Sign) (cs : List Char) : String :=
    match sign with
    | .negative => String.ofList ('-' :: cs)
    | .positive => String.ofList cs
  match x.toModel.unpack with
  | .notANumber => style.nan
  | .infinity sign => signed sign style.infinity.toList
  | .zero sign => signed sign (if style.wholeMark then ['0', '.', '0'] else ['0'])
  | .finite sign m q _ =>
    let (n, exponent) := shortest m q
    signed sign (style.writePositive n exponent)

end LiveConfig.Decimal
