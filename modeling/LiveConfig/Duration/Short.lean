import LiveConfig.Duration

/-!
# Durations in messages

A message gives a duration as one decimal number with the largest unit of seconds, milliseconds,
microseconds and nanoseconds in which it is at least one. The fraction has no trailing zeros.
-/

namespace LiveConfig.Duration

/-- A whole number, its fraction in the given number of places, and a unit. -/
def withUnit (whole places fraction : Nat) (unit : String) : String :=
  let digits := if fraction = 0 then [] else '.' :: fractionDigits places fraction
  String.ofList (Nat.toDigits 10 whole ++ digits) ++ unit

/-- The duration in its largest unit. -/
def short (d : Duration) : String :=
  if 0 < d.secs then withUnit d.secs.toNat 9 d.nanos "s"
  else if 1000000 ≤ d.nanos then withUnit (d.nanos / 1000000) 6 (d.nanos % 1000000) "ms"
  else if 1000 ≤ d.nanos then withUnit (d.nanos / 1000) 3 (d.nanos % 1000) "µs"
  else withUnit d.nanos 0 0 "ns"

end LiveConfig.Duration
