import LiveConfig.Text.Escapes

/-!
# Quoted text

How texts and truth values are shown inside messages. A text stands between double quotes,
with short escapes for the usual control characters and a code point in braces for everything that
is not shown as it is.
-/

namespace LiveConfig.Text

/-- The lower-case hexadecimal digits of a number, without leading zeros. -/
def hexDigits (n : Nat) : List Char :=
  Nat.toDigits 16 n

/-- Whether quoted text shows the character as it is. -/
def isShown (c : Char) : Bool :=
  if c.toNat < 0x80 then 0x20 ≤ c.toNat && c.toNat < 0x7F else !inFlips escapeFlips c

/-- One character as quoted text writes it. -/
def quotedChar (c : Char) : List Char :=
  match c with
  | '\x00' => ['\\', '0']
  | '\t' => ['\\', 't']
  | '\n' => ['\\', 'n']
  | '\r' => ['\\', 'r']
  | '"' => ['\\', '"']
  | '\\' => ['\\', '\\']
  | c => if isShown c then [c] else ['\\', 'u', '\x7b'] ++ hexDigits c.toNat ++ ['\x7d']

/-- A text between double quotes, with escapes. -/
def quoted (s : String) : String :=
  String.ofList ('"' :: s.toList.flatMap quotedChar ++ ['"'])

/-- A truth value in words. -/
def boolText (b : Bool) : String :=
  if b then "true" else "false"

end LiveConfig.Text
