import LiveConfig.Json.Basic

/-!
# Reading JSON documents

A reader takes characters from the front of a list and gives what it has read with the rest of the
list, or `none` if the text is not a document. Arrays and objects nest at most 127 deep.

Numbers with a fraction or an exponent are a significand of at most 64 bits scaled by a power of
ten; digits that no longer fit the significand only count towards the exponent.
-/

namespace LiveConfig.Json

/-- Drops the blanks that may stand between the parts of a document. -/
def skipBlanks (cs : List Char) : List Char :=
  cs.dropWhile fun c => c == ' ' || c == '\n' || c == '\t' || c == '\r'

/-- The significand and the exponent of a number that is being read. -/
structure Scaled where
  significand : Nat
  exponent : Int

/-- Digits before the point. Once one does not fit, it and all later ones scale the number. -/
def takeWhole (n : Nat) (full : Bool) (exponent : Int) : List Char → Bool × Scaled × List Char
  | [] => (full, ⟨n, exponent⟩, [])
  | c :: rest =>
    if c.isDigit then
      let next := n * 10 + (c.toNat - 48)
      if full || next ≥ UInt64.size then takeWhole n true (exponent + 1) rest
      else takeWhole next false exponent rest
    else (full, ⟨n, exponent⟩, c :: rest)

/-- Digits after the point. Once one does not fit, it and all later ones are dropped. -/
def takeFraction (s : Scaled) (full : Bool) : List Char → Scaled × List Char
  | [] => (s, [])
  | c :: rest =>
    if c.isDigit then
      let next := s.significand * 10 + (c.toNat - 48)
      if full || next ≥ UInt64.size then takeFraction s true rest
      else takeFraction ⟨next, s.exponent - 1⟩ false rest
    else (s, c :: rest)

/-- Scales a float by a power of ten, by at most `10 ^ 308` in one step; `none` if the result is
too large. -/
def scale? (f : Float) (exponent : Int) : Nat → Option Float
  | 0 => some f
  | fuel + 1 =>
    if exponent.natAbs ≤ 308 then
      let power := Float.ofScientific 1 false exponent.natAbs
      if exponent ≥ 0 then
        let g := f * power
        if g.isInf then none else some g
      else some (f / power)
    else if f == 0.0 then some f
    else if exponent ≥ 0 then none
    else scale? (f / 1e308) (exponent + 308) fuel

/-- The float that a scaled number stands for. -/
def Scaled.float? (negative : Bool) (s : Scaled) : Option Float :=
  (scale? (UInt64.ofNat s.significand).toFloat s.exponent (s.exponent.natAbs / 308 + 1)).map
    fun f => if negative then -f else f

/-- The greatest number that an exponent may be written with. -/
def exponentLimit : Nat := 2147483647

/-- An exponent of at most the limit: saturated arithmetic of 32-bit words. -/
def clampExponent (e : Int) : Int :=
  max (-2147483648) (min 2147483647 e)

/-- What follows the mark of an exponent. -/
def takeExponent (negative : Bool) (s : Scaled) (cs : List Char) : Option (Number × List Char) :=
  let (down, cs) := match cs with
    | '-' :: rest => (true, rest)
    | '+' :: rest => (false, rest)
    | rest => (false, rest)
  let digits := cs.takeWhile Char.isDigit
  let rest := cs.dropWhile Char.isDigit
  if digits.isEmpty then none
  else
    let e := Nat.ofDigitChars 10 digits 0
    let value? : Option Float :=
      if e > exponentLimit then
        if s.significand ≠ 0 ∧ ¬down then none else some (if negative then -0.0 else 0.0)
      else Scaled.float? negative
        ⟨s.significand, clampExponent (if down then s.exponent - e else s.exponent + e)⟩
    value?.map fun x => (.float x, rest)

/-- A number after its sign. -/
def takeNumber (negative : Bool) (cs : List Char) : Option (Number × List Char) :=
  let whole? : Option (Bool × Scaled × List Char) := match cs with
    | '0' :: rest =>
      match rest with
      | c :: _ => if c.isDigit then none else some (false, ⟨0, 0⟩, rest)
      | [] => some (false, ⟨0, 0⟩, [])
    | c :: _ => if c.isDigit then some (takeWhole 0 false 0 cs) else none
    | [] => none
  whole?.bind fun (full, s, rest) =>
    match rest with
    | '.' :: rest =>
      match rest with
      | c :: _ =>
        if c.isDigit then
          let (s, rest) := takeFraction s false rest
          match rest with
          | 'e' :: rest => takeExponent negative s rest
          | 'E' :: rest => takeExponent negative s rest
          | rest => (s.float? negative).map fun x => (.float x, rest)
        else none
      | [] => none
    | 'e' :: rest => takeExponent negative s rest
    | 'E' :: rest => takeExponent negative s rest
    | rest =>
      if full then (s.float? negative).map fun x => (.float x, rest)
      else if !negative then some (.natural (UInt64.ofNat s.significand), rest)
      else if s.significand = 0 ∨ s.significand > 1 <<< 63 then
        some (.float (-(UInt64.ofNat s.significand).toFloat), rest)
      else some (.negative (Int64.ofInt (-s.significand)), rest)

/-- The number that a digit of base sixteen denotes. -/
def hexValue? (c : Char) : Option Nat :=
  let n := c.toNat
  if 48 ≤ n ∧ n ≤ 57 then some (n - 48)
  else if 97 ≤ n ∧ n ≤ 102 then some (n - 87)
  else if 65 ≤ n ∧ n ≤ 70 then some (n - 55)
  else none

/-- Four digits of base sixteen. -/
def takeHex? : List Char → Option (Nat × List Char)
  | a :: b :: c :: d :: rest => do
    let a ← hexValue? a
    let b ← hexValue? b
    let c ← hexValue? c
    let d ← hexValue? d
    some (((a * 16 + b) * 16 + c) * 16 + d, rest)
  | _ => none

/-- The characters that a backslash makes of the next one. -/
def shortEscape? : Char → Option Char
  | '"' => some '"'
  | '\\' => some '\\'
  | '/' => some '/'
  | 'b' => some '\x08'
  | 'f' => some '\x0c'
  | 'n' => some '\n'
  | 'r' => some '\r'
  | 't' => some '\t'
  | _ => none

/-- The character of a `\u` escape. Two escapes give one character where the first denotes the
upper half of a pair; the lower half alone denotes nothing. -/
def takeUnicode? (cs : List Char) : Option (Char × List Char) := do
  let (n, rest) ← takeHex? cs
  if 0xDC00 ≤ n ∧ n ≤ 0xDFFF then none
  else if 0xD800 ≤ n ∧ n ≤ 0xDBFF then
    match rest with
    | '\\' :: 'u' :: rest =>
      let (low, rest) ← takeHex? rest
      if 0xDC00 ≤ low ∧ low ≤ 0xDFFF then
        some (Char.ofNat (0x10000 + (n - 0xD800) * 0x400 + (low - 0xDC00)), rest)
      else none
    | _ => none
  else some (Char.ofNat n, rest)

/-- A text after its opening quote, up to and including the closing one; `fuel` bounds the number
of characters. -/
def takeText (fuel : Nat) (cs : List Char) : Option (List Char × List Char) :=
  match fuel with
  | 0 => none
  | fuel + 1 =>
    match cs with
    | [] => none
    | '"' :: rest => some ([], rest)
    | '\\' :: 'u' :: rest => do
      let (c, rest) ← takeUnicode? rest
      let (more, rest) ← takeText fuel rest
      some (c :: more, rest)
    | '\\' :: e :: rest => do
      let c ← shortEscape? e
      let (more, rest) ← takeText fuel rest
      some (c :: more, rest)
    | c :: rest =>
      if c = '\\' ∨ c.toNat < 0x20 then none
      else do
        let (more, rest) ← takeText fuel rest
        some (c :: more, rest)

/-- Drops a word from the front. -/
def dropWord? (word : String) (cs : List Char) : Option (List Char) :=
  if word.toList.isPrefixOf cs then some (cs.drop word.length) else none

mutual

/-- A value after blanks; `room` counts the levels that may still be opened. -/
def takeValue (fuel room : Nat) (cs : List Char) : Option (Json × List Char) :=
  match fuel with
  | 0 => none
  | fuel + 1 =>
    match skipBlanks cs with
    | 'n' :: rest => (dropWord? "ull" rest).map (.null, ·)
    | 't' :: rest => (dropWord? "rue" rest).map (.bool true, ·)
    | 'f' :: rest => (dropWord? "alse" rest).map (.bool false, ·)
    | '"' :: rest =>
      (takeText (rest.length + 1) rest).map fun (s, rest) => (.text (.ofList s), rest)
    | '-' :: rest => (takeNumber true rest).map fun (n, rest) => (.number n, rest)
    | '[' :: rest =>
      if room ≤ 1 then none
      else match skipBlanks rest with
        | ']' :: rest => some (.array [], rest)
        | rest => (takeItems fuel (room - 1) rest).map fun (items, rest) => (.array items, rest)
    | '\x7b' :: rest =>
      if room ≤ 1 then none
      else match skipBlanks rest with
        | '\x7d' :: rest => some (.object [], rest)
        | rest =>
          (takeMembers fuel (room - 1) rest).map fun (members, rest) => (ofMembers members, rest)
    | c :: rest => (takeNumber false (c :: rest)).map fun (n, rest) => (.number n, rest)
    | [] => none

/-- The items of an array up to its closing bracket. -/
def takeItems (fuel room : Nat) (cs : List Char) : Option (List Json × List Char) :=
  match fuel with
  | 0 => none
  | fuel + 1 => do
    let (item, rest) ← takeValue fuel room cs
    match skipBlanks rest with
    | ',' :: rest =>
      let (items, rest) ← takeItems fuel room rest
      some (item :: items, rest)
    | ']' :: rest => some ([item], rest)
    | _ => none

/-- The members of an object up to its closing brace. -/
def takeMembers (fuel room : Nat) (cs : List Char) : Option (List (String × Json) × List Char) :=
  match fuel with
  | 0 => none
  | fuel + 1 =>
    match skipBlanks cs with
    | '"' :: rest => do
      let (name, rest) ← takeText (rest.length + 1) rest
      match skipBlanks rest with
      | ':' :: rest =>
        let (value, rest) ← takeValue fuel room rest
        let member := (String.ofList name, value)
        match skipBlanks rest with
        | ',' :: rest =>
          let (members, rest) ← takeMembers fuel room rest
          some (member :: members, rest)
        | '\x7d' :: rest => some ([member], rest)
        | _ => none
      | _ => none
    | _ => none

end

/-- The document that a text holds, with nothing but blanks around it. -/
def parse? (text : String) : Option Json :=
  let cs := text.toList
  match takeValue (2 * cs.length + 2) 128 cs with
  | some (value, rest) => if (skipBlanks rest).isEmpty then some value else none
  | none => none

end LiveConfig.Json
