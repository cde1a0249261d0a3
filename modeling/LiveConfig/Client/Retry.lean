import LiveConfig.Client.Error

/-!
# Retrying

A failed attempt is repeated while attempts are left and the error is one that may pass. Between two
attempts there is a delay, which may grow up to a bound.
-/

namespace LiveConfig

/-- How the delay before an attempt grows with the attempts made. -/
inductive Backoff where
  | none
  | constant (delay : Duration)
  /-- By the same amount each time. -/
  | linear (step limit : Duration)
  /-- By the same factor each time. -/
  | exponential (first limit : Duration) (factor : Float)

/-- How often and when attempts are repeated. -/
structure Retry where
  /-- The number of attempts, the first included. -/
  attempts : Nat
  backoff : Backoff
  /-- The time after which no attempt is repeated. -/
  limit : Option Duration := none

namespace Duration

/-- The shorter of two durations. -/
def shorter (a b : Duration) : Duration :=
  if a.totalNanos ≤ b.totalNanos then a else b

/-- A whole number of nanoseconds that fits the range. -/
def ofNanos (n : Nat) : Duration where
  secs := UInt64.ofNat (n / 1000000000)
  nanos := n % 1000000000
  nanos_lt := Nat.mod_lt _ (by decide)

/-- A multiple of a duration, but at most the limit. -/
def times (d : Duration) (n : Nat) (limit : Duration) : Duration :=
  if d.totalNanos * n ≤ limit.totalNanos then ofNanos (d.totalNanos * n) else limit

/-- A whole number of seconds. -/
def ofSeconds (n : UInt64) : Duration where
  secs := n
  nanos := 0

/-- The whole number of milliseconds as a float. -/
def millis (d : Duration) : Float :=
  Float.ofNat (d.totalNanos / 1000000)

end Duration

/-- A power by repeated squaring, which fixes how it is rounded. -/
def powerFrom (result base : Float) (n : Nat) : Float :=
  if n = 0 then result
  else
    let next := if n % 2 = 1 then result * base else result
    if n / 2 = 0 then next else powerFrom next (base * base) (n / 2)
termination_by n
decreasing_by omega

/-- The smaller of two floats; a NaN is neither. -/
def lesser (x y : Float) : Float :=
  if x.isNaN then y else if y.isNaN then x else if x ≤ y then x else y

/-- The greatest number of factors that a delay is made of. -/
def greatestPower : Nat := 2147483647

namespace Backoff

/-- The delay after so many attempts beyond the first. -/
def delay (b : Backoff) (repeated : Nat) : Duration :=
  match b with
  | .none => .ofSeconds 0
  | .constant delay => delay
  | .linear step limit => step.times (repeated + 1) limit
  | .exponential first limit factor =>
    let grown := first.millis * powerFrom 1.0 factor (min repeated greatestPower)
    (Duration.ofMillis (lesser grown limit.millis).toUInt64).shorter limit

end Backoff

namespace Retry

/-- The bound on growing delays. -/
def longestDelay : Duration := .ofSeconds 10

/-- The time after which the usual policies give up. -/
def usualLimit : Duration := .ofSeconds 60

/-- A policy with at least one attempt and the usual time limit. -/
def usual (attempts : Nat) (backoff : Backoff) : Retry where
  attempts := max attempts 1
  backoff
  limit := some usualLimit

/-- Doubles the delay each time. -/
def exponential (attempts : Nat) (first : Duration) : Retry :=
  usual attempts (.exponential first longestDelay 2.0)

/-- Adds the delay each time. -/
def linear (attempts : Nat) (step : Duration) : Retry :=
  usual attempts (.linear step longestDelay)

/-- Keeps the delay. -/
def constant (attempts : Nat) (delay : Duration) : Retry :=
  usual attempts (.constant delay)

/-- Does not wait. -/
def immediate (attempts : Nat) : Retry :=
  usual attempts .none

/-- Three attempts, from half a second. -/
def standard : Retry :=
  exponential 3 (.ofMillis 500)

/-- The delay before a repetition, counted from one. -/
def delayBefore (r : Retry) (repetition : Nat) : Duration :=
  r.backoff.delay (repetition - 1)

/-- Whether an attempt, counted from zero, that failed with an error is repeated. -/
def repeats (r : Retry) (attempt : Nat) (error : ClientError) : Bool :=
  attempt + 1 < r.attempts && error.isRetryable

/-- Whether so much time is more than the policy gives. -/
def isOver (r : Retry) (elapsed : Duration) : Bool :=
  r.limit.any fun limit => limit.totalNanos < elapsed.totalNanos

end Retry

end LiveConfig
