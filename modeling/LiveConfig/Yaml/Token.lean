import LiveConfig.Yaml.Folding

/-!
# Tokens of a YAML text

`Token.scan?` cuts a text into tokens. Block structure is made explicit: where the indentation
grows, a collection starts, and where it shrinks, the collections that lie deeper end.

A key is recognised only at the colon behind it. So the place of every token that may start a key
is remembered, and the key's marks are inserted there when the colon comes. Such a key stands on
one line and is at most 1024 characters long.
-/

namespace LiveConfig.Yaml

/-- A token; the end of the list of tokens is the end of the text. -/
inductive Token where
  | version (major minor : Nat)
  /-- A declared tag handle with what it stands for. -/
  | handle (name meaning : List Char)
  | documentStart
  | documentEnd
  | blockSequenceStart
  | blockMappingStart
  | blockEnd
  | flowSequenceStart
  | flowSequenceEnd
  | flowMappingStart
  | flowMappingEnd
  | blockEntry
  | flowEntry
  | key
  | value
  | alias (name : List Char)
  | anchor (name : List Char)
  | tag (handle suffix : List Char)
  | scalar (text : List Char) (isPlain : Bool)
deriving DecidableEq, Repr

/-- A place at which a key may have started. -/
structure KeyPlace where
  /-- How many tokens come before it. -/
  position : Nat
  index : Nat
  line : Nat
  column : Nat
  /-- Whether nothing but a key may stand there. -/
  required : Bool

/-- What is known in the middle of a text. -/
structure Scan where
  cursor : Cursor
  /-- The tokens so far, the last one first. -/
  tokens : List Token := []
  /-- Whether a key may start here. -/
  keyAllowed : Bool := true
  /-- The columns of the open block collections, the innermost one first. -/
  indents : List Int := []
  /-- The possible start of a key in the block context. -/
  blockKey : Option KeyPlace := none
  /-- The possible starts of keys in the open flow collections, the innermost one first. -/
  flowKeys : List (Option KeyPlace) := []

namespace Scan

/-- The column of the innermost open block collection. -/
def indent (s : Scan) : Int :=
  s.indents.headD (-1)

/-- Whether a flow collection is open. -/
def inFlow (s : Scan) : Bool :=
  !s.flowKeys.isEmpty

/-- Inserts a token behind the given number of tokens. -/
def insertAt (s : Scan) (position : Nat) (t : Token) : Scan :=
  { s with tokens := s.tokens.insertIdx (s.tokens.length - position) t }

/-- The possible start of a key at the current level. -/
def keyPlace (s : Scan) : Option KeyPlace :=
  match s.flowKeys with
  | [] => s.blockKey
  | k :: _ => k

/-- Replaces the possible start of a key at the current level. -/
def setKeyPlace (s : Scan) (k : Option KeyPlace) : Scan :=
  match s.flowKeys with
  | [] => { s with blockKey := k }
  | _ :: rest => { s with flowKeys := k :: rest }

/-- Forgets the possible start of a key at the current level; fails if a key had to be there. -/
def dropKey? (s : Scan) : Option Scan :=
  if s.keyPlace.any KeyPlace.required then none else some (s.setKeyPlace none)

/-- Remembers that a key may start at the cursor, where one is allowed. -/
def saveKey? (s : Scan) : Option Scan :=
  if s.keyAllowed then
    s.dropKey?.map fun s => s.setKeyPlace <| some
      { position := s.tokens.length
        index := s.cursor.index
        line := s.cursor.line
        column := s.cursor.column
        required := !s.inFlow && s.indent == s.cursor.column }
  else some s

/-- Whether a key that started at the place can no longer end at the cursor. -/
def isStale (s : Scan) (k : KeyPlace) : Bool :=
  k.line < s.cursor.line || k.index + 1024 < s.cursor.index

/-- Forgets the starts of keys that are too far back; fails if a key had to be at one of them. -/
def dropStaleKeys? (s : Scan) : Option Scan :=
  let stale (k : Option KeyPlace) : Bool := k.any s.isStale
  let fails (k : Option KeyPlace) : Bool := stale k && k.any KeyPlace.required
  let fresh (k : Option KeyPlace) : Option KeyPlace := if stale k then none else k
  if fails s.blockKey || s.flowKeys.any fails then none
  else some { s with blockKey := fresh s.blockKey, flowKeys := s.flowKeys.map fresh }

/-- Opens a block collection if the column lies deeper than the innermost open one. Its token goes
behind the given number of tokens. -/
def deepen (s : Scan) (column : Nat) (position : Nat) (t : Token) : Scan :=
  if !s.inFlow && s.indent < column then
    { s.insertAt position t with indents := (column : Int) :: s.indents }
  else s

/-- Ends the block collections that lie deeper than the column. -/
def shallow (s : Scan) (column : Int) : Scan :=
  if s.inFlow then s
  else
    let ended := s.indents.takeWhile (column < ·)
    { s with
      tokens := List.replicate ended.length .blockEnd ++ s.tokens
      indents := s.indents.dropWhile (column < ·) }

/-- Moves over the given number of characters and adds a token. -/
def take (s : Scan) (n : Nat) (t : Token) : Scan :=
  { s with cursor := s.cursor.advance n, tokens := t :: s.tokens }

/-- Moves over blanks, comments and line breaks, and over a byte order mark at the very start, which
takes up a column all the same. Tabs count as blanks only where no key may start. In the block
context a line break allows a key. -/
def skipBlanks (fuel : Nat) (s : Scan) : Scan :=
  match fuel with
  | 0 => s
  | fuel + 1 =>
    let c := if s.cursor.index = 0 ∧ s.cursor.sees '\ufeff' then s.cursor.advance 1 else s.cursor
    let tabs := s.inFlow || !s.keyAllowed
    let c := c.skipWhile fun x => x == ' ' || (tabs && x == '\t')
    let c := if c.sees '#' then c.skipLineRest else c
    if c.rest.head?.any isBreak then
      skipBlanks fuel { s with cursor := c.takeBreak.2, keyAllowed := s.keyAllowed || !s.inFlow }
    else { s with cursor := c }

/-- The letters of anchors and tag handles. -/
def isWordChar (c : Char) : Bool :=
  c.isAlphanum || c == '_' || c == '-'

/-- A document marker. -/
def takeMarker? (s : Scan) (t : Token) : Option Scan := do
  let s ← (s.shallow (-1)).dropKey?
  return { s.take 3 t with keyAllowed := false }

/-- The opening bracket of a flow collection. -/
def openFlow? (s : Scan) (t : Token) : Option Scan := do
  let s ← s.saveKey?
  return { s.take 1 t with flowKeys := none :: s.flowKeys, keyAllowed := true }

/-- The closing bracket of a flow collection. -/
def closeFlow? (s : Scan) (t : Token) : Option Scan := do
  let s ← s.dropKey?
  return { s.take 1 t with flowKeys := s.flowKeys.tail, keyAllowed := false }

/-- A comma. -/
def takeComma? (s : Scan) : Option Scan := do
  let s ← s.dropKey?
  return { s.take 1 .flowEntry with keyAllowed := true }

/-- The mark of a block sequence's entry. -/
def takeEntry? (s : Scan) : Option Scan := do
  if !s.inFlow && !s.keyAllowed then none
  else
    let s ← (s.deepen s.cursor.column s.tokens.length .blockSequenceStart).dropKey?
    return { s.take 1 .blockEntry with keyAllowed := true }

/-- The mark of a key that may run over several lines. -/
def takeKeyMark? (s : Scan) : Option Scan := do
  if !s.inFlow && !s.keyAllowed then none
  else
    let s ← (s.deepen s.cursor.column s.tokens.length .blockMappingStart).dropKey?
    return { s.take 1 .key with keyAllowed := !s.inFlow }

/-- The colon before a value. Where a key may have started, its mark is inserted there. -/
def takeColon? (s : Scan) : Option Scan :=
  match s.keyPlace with
  | some k =>
    let s := (s.insertAt k.position .key).deepen k.column k.position .blockMappingStart
    some { (s.setKeyPlace none).take 1 .value with keyAllowed := false }
  | none =>
    if !s.inFlow && !s.keyAllowed then none
    else
      let s := s.deepen s.cursor.column s.tokens.length .blockMappingStart
      some { s.take 1 .value with keyAllowed := !s.inFlow }

/-- An anchor or an alias. -/
def takeName? (s : Scan) (make : List Char → Token) : Option Scan := do
  let s ← s.saveKey?
  let c := s.cursor.advance 1
  let name := c.rest.takeWhile isWordChar
  let c := c.advance name.length
  let ended := c.blankAt || c.rest.head?.any ("?:,]\x7d%@\x60".toList.contains ·)
  if name.isEmpty || !ended then none
  else return { s with cursor := c, tokens := make name :: s.tokens, keyAllowed := false }

/-- The characters of a tag, apart from those that are escaped. -/
def isTagChar (verbatim : Bool) (c : Char) : Bool :=
  isWordChar c || ";/?:@&=+$.!~*'()".toList.contains c || (verbatim && ",[]".toList.contains c)

/-- How many bytes a character takes whose UTF-8 form starts with the byte. -/
def utf8Width? (b : Nat) : Option Nat :=
  if b < 0x80 then some 1
  else if 0xC0 ≤ b ∧ b < 0xE0 then some 2
  else if 0xE0 ≤ b ∧ b < 0xF0 then some 3
  else if 0xF0 ≤ b ∧ b < 0xF8 then some 4
  else none

/-- The bytes of an escaped character: a percent sign and two digits for each of them. -/
def takeEscapedBytes? : Nat → List Char → Option (List UInt8 × List Char)
  | 0, cs => some ([], cs)
  | n + 1, '%' :: high :: low :: rest => do
    let b ← readHex? [high, low]
    let (more, rest) ← takeEscapedBytes? n rest
    some (UInt8.ofNat b :: more, rest)
  | _, _ => none

/-- The characters of a tag, escapes resolved. -/
def takeTagChars? (verbatim : Bool) (fuel : Nat) (cs : List Char) :
    Option (List Char × List Char) :=
  match fuel with
  | 0 => some ([], cs)
  | fuel + 1 =>
    match cs with
    | '%' :: high :: low :: _ => do
      let first ← readHex? [high, low]
      let width ← utf8Width? first
      let (bytes, rest) ← takeEscapedBytes? width cs
      let text ← String.fromUTF8? ⟨bytes.toArray⟩
      let (more, rest) ← takeTagChars? verbatim fuel rest
      some (text.toList ++ more, rest)
    | '%' :: _ => none
    | x :: rest =>
      if isTagChar verbatim x then
        (takeTagChars? verbatim fuel rest).map fun (more, rest) => (x :: more, rest)
      else some ([], cs)
    | [] => some ([], [])

/-- A tag after its exclamation mark: its handle and its suffix. -/
def takeTagParts? (cs : List Char) : Option (List Char × List Char × List Char) :=
  match cs with
  | '<' :: rest =>
    match takeTagChars? true (rest.length + 1) rest with
    | some (suffix, '>' :: rest) => if suffix.isEmpty then none else some ([], suffix, rest)
    | _ => none
  | _ =>
    let name := cs.takeWhile isWordChar
    match cs.drop name.length with
    | '!' :: rest =>
      match takeTagChars? false (rest.length + 1) rest with
      | some (suffix, rest) =>
        if suffix.isEmpty then none else some ('!' :: name ++ ['!'], suffix, rest)
      | none => none
    | rest =>
      match takeTagChars? false (rest.length + 1) rest with
      | some (more, rest) =>
        if (name ++ more).isEmpty then some ([], ['!'], rest)
        else some (['!'], name ++ more, rest)
      | none => none

/-- A tag. -/
def takeTag? (s : Scan) : Option Scan := do
  let s ← s.saveKey?
  let (handle, suffix, rest) ← takeTagParts? (s.cursor.advance 1).rest
  let c := s.cursor.moveTo rest
  if !c.blankAt && !(s.inFlow && c.sees ',') then none
  else return { s with cursor := c, tokens := .tag handle suffix :: s.tokens, keyAllowed := false }

/-- A number of a version, of at most nine digits. -/
def takeVersionNumber? (cs : List Char) : Option (Nat × List Char) :=
  let digits := cs.takeWhile Char.isDigit
  if digits.isEmpty || digits.length > 9 then none
  else some (Nat.ofDigitChars 10 digits 0, cs.drop digits.length)

/-- The tag handle of a directive. -/
def takeHandle? (cs : List Char) : Option (List Char × List Char) :=
  match cs with
  | '!' :: rest =>
    let name := rest.takeWhile isWordChar
    match rest.drop name.length with
    | '!' :: after => some ('!' :: name ++ ['!'], after)
    | after => if name.isEmpty then some (['!'], after) else none
  | _ => none

/-- A directive: a version, or the meaning of a tag handle. -/
def takeDirective? (s : Scan) : Option Scan := do
  let s ← (s.shallow (-1)).dropKey?
  let c := s.cursor.advance 1
  let name := String.ofList (c.rest.takeWhile isWordChar)
  let c := c.advance name.length
  if name.isEmpty || !c.blankAt then none
  else
    let c := c.skipWhile isBlank
    let (token, c) ←
      if name = "YAML" then do
        let (major, rest) ← takeVersionNumber? c.rest
        match rest with
        | '.' :: rest =>
          let (minor, rest) ← takeVersionNumber? rest
          some (Token.version major minor, c.moveTo rest)
        | _ => none
      else if name = "TAG" then do
        let (handle, rest) ← takeHandle? c.rest
        if !rest.head?.any isBlank then none
        else
          let c := (c.moveTo rest).skipWhile isBlank
          let (meaning, rest) ← takeTagChars? true (c.rest.length + 1) c.rest
          let c := c.moveTo rest
          if meaning.isEmpty || !c.blankAt then none else some (Token.handle handle meaning, c)
      else none
    let c := c.skipWhile isBlank
    let c := if c.sees '#' then c.skipLineRest else c
    if !c.atLineEnd then none
    else return { s with cursor := c.takeBreak.2, tokens := token :: s.tokens, keyAllowed := false }

/-- A block scalar. -/
def takeBlockScalar? (s : Scan) (literal : Bool) : Option Scan := do
  let s ← s.dropKey?
  let (text, c) ← takeBlock literal s.indent (s.cursor.advance 1)
  return { s with cursor := c, tokens := .scalar text false :: s.tokens, keyAllowed := true }

/-- A quoted scalar. -/
def takeQuotedScalar? (s : Scan) (single : Bool) : Option Scan := do
  let s ← s.saveKey?
  let c := s.cursor.advance 1
  let (text, c) ← takeQuoted single (c.rest.length + 1) c
  return { s with cursor := c, tokens := .scalar text false :: s.tokens, keyAllowed := false }

/-- A plain scalar. A line break behind it allows a key. -/
def takePlainScalar? (s : Scan) : Option Scan := do
  let s ← s.saveKey?
  let (text, c, broken) ← takePlain s.inFlow s.indent (s.cursor.rest.length + 1) {} s.cursor
  return { s with cursor := c, tokens := .scalar text true :: s.tokens, keyAllowed := broken }

/-- The characters that no plain scalar starts with. -/
def indicators : List Char :=
  "-?:,[]\x7b\x7d#&*!|>'\"%@\x60".toList

/-- Whether a plain scalar may start at the cursor. -/
def plainStartsHere (s : Scan) : Bool :=
  match s.cursor.rest with
  | [] => false
  | x :: rest =>
    (!(isBlank x || isBreak x) && !indicators.contains x) ||
      (x == '-' && !rest.head?.any isBlank) ||
      (!s.inFlow && (x == '?' || x == ':') && !s.cursor.blankAt 1)

/-- Takes the token at the cursor. -/
def takeToken? (s : Scan) : Option Scan :=
  let c := s.cursor
  match c.rest with
  | [] => none
  | x :: _ =>
    let loneMark := c.blankAt 1
    if c.column = 0 ∧ x = '%' then s.takeDirective?
    else if c.atMarker then s.takeMarker? (if x = '-' then .documentStart else .documentEnd)
    else if x = '[' then s.openFlow? .flowSequenceStart
    else if x = '\x7b' then s.openFlow? .flowMappingStart
    else if x = ']' then s.closeFlow? .flowSequenceEnd
    else if x = '\x7d' then s.closeFlow? .flowMappingEnd
    else if x = ',' then s.takeComma?
    else if x = '-' ∧ loneMark then s.takeEntry?
    else if x = '?' ∧ (s.inFlow ∨ loneMark) then s.takeKeyMark?
    else if x = ':' ∧ (s.inFlow ∨ loneMark) then s.takeColon?
    else if x = '*' then s.takeName? .alias
    else if x = '&' then s.takeName? .anchor
    else if x = '!' then s.takeTag?
    else if x = '|' ∧ !s.inFlow then s.takeBlockScalar? true
    else if x = '>' ∧ !s.inFlow then s.takeBlockScalar? false
    else if x = '\'' then s.takeQuotedScalar? true
    else if x = '"' then s.takeQuotedScalar? false
    else if s.plainStartsHere then s.takePlainScalar?
    else none

/-- Takes all tokens that are left. -/
def finish? (fuel : Nat) (s : Scan) : Option (List Token) :=
  match fuel with
  | 0 => none
  | fuel + 1 => do
    let s ← (s.skipBlanks (s.cursor.rest.length + 1)).dropStaleKeys?
    let s := s.shallow s.cursor.column
    if s.cursor.rest.isEmpty then
      let s ← (s.shallow (-1)).dropKey?
      return s.tokens.reverse
    else (← s.takeToken?).finish? fuel

end Scan

/-- The characters that a text may hold. -/
def isAllowed (c : Char) : Bool :=
  let n := c.toNat
  n == 9 || n == 10 || n == 13 || (0x20 ≤ n && n ≤ 0x7E) || n == 0x85 ||
    (0xA0 ≤ n && n ≤ 0xFFFD) || 0x10000 ≤ n

/-- The tokens of a text. -/
def Token.scan? (text : String) : Option (List Token) :=
  let cs := text.toList
  if cs.all isAllowed then Scan.finish? (2 * cs.length + 2) { cursor := { rest := cs } } else none

end LiveConfig.Yaml
