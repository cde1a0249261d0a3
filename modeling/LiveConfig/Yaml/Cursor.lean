/-!
# Positions in a text

A cursor holds what is left of a text and where it stands in the whole. Carriage return and line
feed together are one line break; so are each of them alone, the next-line character, and the line
and paragraph separators.
-/

namespace LiveConfig.Yaml

/-- The characters that end a line. -/
def isBreak (c : Char) : Bool :=
  c == '\n' || c == '\r' || c == '\u0085' || c == '\u2028' || c == '\u2029'

/-- Spaces and tabs. -/
def isBlank (c : Char) : Bool :=
  c == ' ' || c == '\t'

/-- What is left of a text, and its place in the whole. -/
structure Cursor where
  rest : List Char
  index : Nat := 0
  line : Nat := 0
  column : Nat := 0

namespace Cursor

/-- Whether the given character stands at the given distance. -/
def sees (c : Cursor) (char : Char) (distance : Nat := 0) : Bool :=
  c.rest[distance]? == some char

/-- Whether the text ends or a blank or a line break stands at the given distance. -/
def blankAt (c : Cursor) (distance : Nat := 0) : Bool :=
  c.rest[distance]?.all fun x => isBlank x || isBreak x

/-- Whether the text ends or a line break stands here. -/
def atLineEnd (c : Cursor) : Bool :=
  c.rest.head?.all isBreak

/-- Moves over characters of the same line. -/
def advance (c : Cursor) (n : Nat) : Cursor :=
  { c with rest := c.rest.drop n, index := c.index + n, column := c.column + n }

/-- Moves to a later place of the same line, given what is left there. -/
def moveTo (c : Cursor) (rest : List Char) : Cursor :=
  let n := c.rest.length - rest.length
  { c with rest := rest, index := c.index + n, column := c.column + n }

/-- Moves over all characters of a kind on the same line. -/
def skipWhile (c : Cursor) (p : Char → Bool) : Cursor :=
  c.moveTo (c.rest.dropWhile p)

/-- Moves over a line break. The result holds what a text takes from it: a line feed, except that
the line and paragraph separators stand for themselves. -/
def takeBreak (c : Cursor) : List Char × Cursor :=
  let next (n : Nat) : Cursor :=
    { rest := c.rest.drop n, index := c.index + n, line := c.line + 1, column := 0 }
  match c.rest with
  | '\r' :: '\n' :: _ => (['\n'], next 2)
  | '\u2028' :: _ => (['\u2028'], next 1)
  | '\u2029' :: _ => (['\u2029'], next 1)
  | x :: _ => if isBreak x then (['\n'], next 1) else ([], c)
  | [] => ([], c)

/-- Moves over everything up to the end of the line. -/
def skipLineRest (c : Cursor) : Cursor :=
  c.skipWhile (!isBreak ·)

/-- Whether a document marker stands here: three equal characters at the start of a line, with a
blank, a line break or the end behind them. -/
def atMarker (c : Cursor) : Bool :=
  c.column == 0 && c.blankAt 3 &&
    (['-', '-', '-'].isPrefixOf c.rest || ['.', '.', '.'].isPrefixOf c.rest)

end Cursor

end LiveConfig.Yaml
