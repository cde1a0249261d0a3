import LiveConfig.Text.CaseTable
import LiveConfig.Text.Escapes

/-!
# Lower case

The full lower-case mapping of a text: one character each, except that a capital I with dot
becomes two, and that a capital sigma at the end of a word takes its final form.
-/

namespace LiveConfig.Text

/-- The run of upper-case characters that holds the code point, if there is one. -/
def lowercaseRun (n : Nat) : Option (Nat × Nat × Nat × Int) :=
  lowercaseRuns.find? fun (first, last, step, _) =>
    first ≤ n && n ≤ last && (n - first) % step == 0

/-- The lower-case form of one character, away from the end of a word. -/
def lowercaseChar (c : Char) : List Char :=
  if c.toNat = 0x130 then ['i', '\u0307']
  else match lowercaseRun c.toNat with
    | some (_, _, _, distance) => [Char.ofNat (c.toNat + distance).toNat]
    | none => [c]

/-- Whether the nearest character that is not passed over is cased. -/
def nearestIsCased (cs : List Char) : Bool :=
  match cs.dropWhile (inFlips caseIgnorableFlips) with
  | [] => false
  | c :: _ => inFlips casedFlips c

/-- Lower case of the rest of a text; `before` holds what precedes it, nearest first. -/
def lowercaseFrom (before : List Char) : List Char → List Char
  | [] => []
  | c :: rest =>
    let here :=
      if c = 'Σ' then
        if nearestIsCased before && !nearestIsCased rest then ['ς'] else ['σ']
      else lowercaseChar c
    here ++ lowercaseFrom (c :: before) rest

/-- A text in lower case. -/
def lowercase (s : String) : String :=
  String.ofList (lowercaseFrom [] s.toList)

end LiveConfig.Text
