/-!
# Integer ranges

A range holds its lower bound and not its upper one. A missing bound stands for the least or the
greatest 64-bit integer, so the greatest one itself is in no range.
-/

namespace LiveConfig

/-- A half-open range of 64-bit integers. -/
structure IntRange where
  lower : Option Int64 := none
  upper : Option Int64 := none
deriving DecidableEq, Repr

namespace IntRange

/-- The least number of the range. -/
def first (r : IntRange) : Int64 :=
  r.lower.getD Int64.minValue

/-- The number at which the range ends. -/
def stop (r : IntRange) : Int64 :=
  r.upper.getD Int64.maxValue

/-- Whether an integer lies in the range. -/
def holdsInt (r : IntRange) (n : Int64) : Bool :=
  r.first ≤ n && n < r.stop

/-- Whether a float lies in the range whose bounds are rounded to floats. -/
def holdsFloat (r : IntRange) (x : Float) : Bool :=
  r.first.toFloat ≤ x && x < r.stop.toFloat

end IntRange

end LiveConfig
