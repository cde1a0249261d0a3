import LiveConfig.Yaml.Cursor

/-!
# Text of scalars

Scalars may run over several lines. In plain and quoted scalars a single line break becomes a
space and further ones stay; in block scalars the breaks are kept or folded as the header says.
Each reader here starts behind the mark that opens the scalar and gives the text with the cursor
behind the scalar, or `none` if the scalar is malformed.
-/

namespace LiveConfig.Yaml

/-- A run of blanks and line breaks between two words. -/
structure Gap where
  /-- The blanks before the first line break. -/
  spaces : List Char := []
  /-- What the first line break contributes. -/
  first : List Char := []
  /-- What the further line breaks contribute. -/
  others : List Char := []
  /-- Whether the run holds a line break, or starts behind an escaped one. -/
  broken : Bool := false

/-- The text that a run contributes. -/
def Gap.text (g : Gap) : List Char :=
  if g.broken then
    if g.first = ['\n'] then if g.others.isEmpty then [' '] else g.others
    else g.first ++ g.others
  else g.spaces

/-- Takes blanks and line breaks. Behind a line break, tabs in front of the given column are
refused. -/
def takeGap (tabLimit : Nat) (fuel : Nat) (g : Gap) (c : Cursor) : Option (Gap × Cursor) :=
  match fuel with
  | 0 => some (g, c)
  | fuel + 1 =>
    match c.rest with
    | [] => some (g, c)
    | x :: _ =>
      if isBlank x then
        if g.broken then
          if x = '\t' ∧ c.column < tabLimit then none
          else takeGap tabLimit fuel g (c.advance 1)
        else takeGap tabLimit fuel { g with spaces := g.spaces ++ [x] } (c.advance 1)
      else if isBreak x then
        let (contribution, c) := c.takeBreak
        if g.broken then takeGap tabLimit fuel { g with others := g.others ++ contribution } c
        else takeGap tabLimit fuel { first := contribution, broken := true } c
      else some (g, c)

/-- The characters that end a plain scalar inside a flow collection, apart from the colon. -/
def isFlowIndicator (c : Char) : Bool :=
  c == ',' || c == '[' || c == ']' || c == '\x7b' || c == '\x7d'

/-- Takes the characters of one word of a plain scalar. Inside a flow collection a colon before an
indicator is refused. -/
def takePlainWord (inFlow : Bool) : List Char → Option (List Char × List Char)
  | [] => some ([], [])
  | x :: rest =>
    if isBlank x || isBreak x then some ([], x :: rest)
    else if inFlow && x == ':' && rest.head?.any (fun y => isFlowIndicator y || y == '?') then none
    else if x == ':' && rest.head?.all (fun y => isBlank y || isBreak y) then some ([], x :: rest)
    else if inFlow && isFlowIndicator x then some ([], x :: rest)
    else (takePlainWord inFlow rest).map fun (word, rest) => (x :: word, rest)

/-- Takes a plain scalar from its first word on. The last part of the result tells whether a line
break follows the scalar. -/
def takePlain (inFlow : Bool) (indent : Int) (fuel : Nat) (g : Gap) (c : Cursor) :
    Option (List Char × Cursor × Bool) :=
  match fuel with
  | 0 => some ([], c, g.broken)
  | fuel + 1 =>
    if c.atMarker || c.sees '#' then some ([], c, g.broken)
    else do
      let (word, rest) ← takePlainWord inFlow c.rest
      let start := if word.isEmpty then [] else g.text ++ word
      let g := if word.isEmpty then g else {}
      let c := c.moveTo rest
      if c.rest.head?.any (fun x => isBlank x || isBreak x) then
        let (g, c) ← takeGap (indent + 1).toNat (c.rest.length + 1) g c
        if !inFlow && (c.column : Int) < indent + 1 then some (start, c, g.broken)
        else
          let (more, c, broken) ← takePlain inFlow indent fuel g c
          some (start ++ more, c, broken)
      else some (start, c, g.broken)

/-- The number that digits of base sixteen denote. -/
def readHex? (cs : List Char) : Option Nat :=
  cs.foldlM (fun n c =>
    let v := c.toNat
    if 48 ≤ v ∧ v ≤ 57 then some (n * 16 + (v - 48))
    else if 97 ≤ v ∧ v ≤ 102 then some (n * 16 + (v - 87))
    else if 65 ≤ v ∧ v ≤ 70 then some (n * 16 + (v - 55))
    else none) 0

/-- The character that a backslash and another character stand for. -/
def simpleEscape? : Char → Option Char
  | '0' => some '\x00'
  | 'a' => some '\x07'
  | 'b' => some '\x08'
  | 't' => some '\t'
  | '\t' => some '\t'
  | 'n' => some '\n'
  | 'v' => some '\x0b'
  | 'f' => some '\x0c'
  | 'r' => some '\r'
  | 'e' => some '\x1b'
  | ' ' => some ' '
  | '"' => some '"'
  | '/' => some '/'
  | '\\' => some '\\'
  | 'N' => some '\u0085'
  | '_' => some '\u00a0'
  | 'L' => some '\u2028'
  | 'P' => some '\u2029'
  | _ => none

/-- How many digits of base sixteen follow an escape. -/
def escapeWidth? : Char → Option Nat
  | 'x' => some 2
  | 'u' => some 4
  | 'U' => some 8
  | _ => none

/-- The character of an escape, after the backslash. -/
def takeEscape? (cs : List Char) : Option (Char × List Char) :=
  match cs with
  | [] => none
  | e :: rest =>
    match escapeWidth? e with
    | none => (simpleEscape? e).map (·, rest)
    | some width =>
      let digits := rest.take width
      if digits.length < width then none
      else match readHex? digits with
        | none => none
        | some n =>
          if (0xD800 ≤ n ∧ n ≤ 0xDFFF) ∨ n > 0x10FFFF then none
          else some (Char.ofNat n, rest.drop width)

/-- Takes characters of a quoted scalar up to a blank, a line break or the closing quote. The last
part of the result tells whether the run ends in an escaped line break, which is not taken. -/
def takeQuotedRun (single : Bool) (fuel : Nat) (cs : List Char) :
    Option (List Char × List Char × Bool) :=
  match fuel with
  | 0 => some ([], cs, false)
  | fuel + 1 =>
    match cs with
    | [] => some ([], [], false)
    | x :: rest =>
      if isBlank x || isBreak x then some ([], cs, false)
      else if single then
        match x, rest with
        | '\'', '\'' :: rest =>
          (takeQuotedRun single fuel rest).map fun (run, rest, cut) => ('\'' :: run, rest, cut)
        | '\'', _ => some ([], cs, false)
        | _, _ => (takeQuotedRun single fuel rest).map fun (run, rest, cut) => (x :: run, rest, cut)
      else if x = '"' then some ([], cs, false)
      else if x = '\\' then
        if rest.head?.any isBreak then some ([], rest, true)
        else do
          let (y, rest) ← takeEscape? rest
          let (run, rest, cut) ← takeQuotedRun single fuel rest
          some (y :: run, rest, cut)
      else (takeQuotedRun single fuel rest).map fun (run, rest, cut) => (x :: run, rest, cut)

/-- Takes a quoted scalar after its opening quote, closing quote included. -/
def takeQuoted (single : Bool) (fuel : Nat) (c : Cursor) : Option (List Char × Cursor) :=
  match fuel with
  | 0 => none
  | fuel + 1 =>
    if c.atMarker || c.rest.isEmpty then none
    else do
      let (run, rest, cut) ← takeQuotedRun single (c.rest.length + 1) c.rest
      let c := c.moveTo rest
      if c.sees (if single then '\'' else '"') && !cut then some (run, c.advance 1)
      else
        let c := if cut then c.takeBreak.2 else c
        let (g, c) ← takeGap 0 (c.rest.length + 1) { broken := cut } c
        let (more, c) ← takeQuoted single fuel c
        some (run ++ g.text ++ more, c)

/-- What happens to the line breaks at the end of a block scalar. -/
inductive Chomping where
  | strip | clip | keep
deriving DecidableEq, Repr

/-- The header of a block scalar: what happens at its end, and by how much its lines are indented
if the header says so. The indentation may not be zero. -/
def takeBlockHeader? (cs : List Char) : Option (Chomping × Option Nat × List Char) :=
  let chomping? : Char → Option Chomping
    | '+' => some .keep
    | '-' => some .strip
    | _ => none
  let indentation? (cs : List Char) : Option (Option Nat × List Char) :=
    match cs with
    | d :: rest =>
      if d = '0' then none
      else if d.isDigit then some (some (d.toNat - 48), rest)
      else some (none, cs)
    | [] => some (none, [])
  match cs with
  | [] => some (.clip, none, [])
  | x :: rest =>
    match chomping? x with
    | some chomping => (indentation? rest).map fun (width, rest) => (chomping, width, rest)
    | none =>
      match indentation? cs with
      | none => none
      | some (none, rest) => some (.clip, none, rest)
      | some (some width, rest) =>
        match rest.head?.bind chomping? with
        | some chomping => some (chomping, some width, rest.tail)
        | none => some (.clip, some width, rest)

/-- Takes indentation and empty lines. With no indentation known yet, `widest` collects the
greatest one seen. Tabs in the place of indentation are refused. -/
def takeEmptyLines (indent : Option Nat) (fuel : Nat) (breaks : List Char) (widest : Nat)
    (c : Cursor) : Option (List Char × Nat × Cursor) :=
  match fuel with
  | 0 => some (breaks, widest, c)
  | fuel + 1 =>
    let spaces := (c.rest.takeWhile (· == ' ')).length
    let n := match indent with
      | none => spaces
      | some width => min spaces (width - c.column)
    let c := c.advance n
    let widest := max widest c.column
    if indent.all (c.column < ·) && c.sees '\t' then none
    else if c.rest.head?.any isBreak then
      let (contribution, c) := c.takeBreak
      takeEmptyLines indent fuel (breaks ++ contribution) widest c
    else some (breaks, widest, c)

/-- Takes the lines of a block scalar from its first non-empty one on. `first` and `others` are the
line breaks that wait for the next line, and `wasBlank` tells whether the last line began with a
blank. The result keeps the breaks behind the last line apart. -/
def takeBlockLines (literal : Bool) (indent : Nat) (fuel : Nat) (first others : List Char)
    (wasBlank : Bool) (c : Cursor) :
    Option (List Char × List Char × List Char × Cursor) :=
  match fuel with
  | 0 => some ([], first, others, c)
  | fuel + 1 =>
    if c.column ≠ indent ∨ c.rest.isEmpty then some ([], first, others, c)
    else do
      let isBlankLine := c.rest.head?.any isBlank
      let joint :=
        if !literal && first == ['\n'] && !wasBlank && !isBlankLine then
          if others.isEmpty then [' '] else others
        else first ++ others
      let line := c.rest.takeWhile (!isBreak ·)
      let (contribution, c) := (c.advance line.length).takeBreak
      let (breaks, _, c) ← takeEmptyLines (some indent) (c.rest.length + 1) [] 0 c
      let (more, first, others, c) ←
        takeBlockLines literal indent fuel contribution breaks isBlankLine c
      some (joint ++ line ++ more, first, others, c)

/-- Takes a block scalar after its opening mark. -/
def takeBlock (literal : Bool) (parentIndent : Int) (c : Cursor) : Option (List Char × Cursor) := do
  let (chomping, width?, rest) ← takeBlockHeader? c.rest
  let c := (c.moveTo rest).skipWhile isBlank
  let c := if c.sees '#' then c.skipLineRest else c
  if !c.atLineEnd then none
  else
    let c := c.takeBreak.2
    let fixed := width?.map fun width => (max parentIndent 0).toNat + width
    let (breaks, widest, c) ← takeEmptyLines fixed (c.rest.length + 1) [] 0 c
    let indent := fixed.getD (max widest (max (parentIndent + 1).toNat 1))
    let (text, first, others, c) ←
      takeBlockLines literal indent (c.rest.length + 1) [] breaks false c
    let tail := match chomping with
      | .strip => []
      | .clip => first
      | .keep => first ++ others
    some (text ++ tail, c)

end LiveConfig.Yaml
