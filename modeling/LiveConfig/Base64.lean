import LiveConfig.Bytes

/-!
# Base64

The standard alphabet with padding. Each byte string is read from one text only: the padding must be
there, and the bits that no byte uses must be zero.
-/

namespace LiveConfig.Base64

/-- The number that a character of the alphabet denotes. -/
def symbolValue? (b : UInt8) : Option Nat :=
  let n := b.toNat
  if 65 ≤ n ∧ n ≤ 90 then some (n - 65)
  else if 97 ≤ n ∧ n ≤ 122 then some (n - 71)
  else if 48 ≤ n ∧ n ≤ 57 then some (n + 4)
  else if n = 43 then some 62
  else if n = 47 then some 63
  else none

/-- The padding character. -/
def pad : UInt8 := 61

/-- Reads a byte string. -/
def decode? : Bytes → Option Bytes
  | [] => some []
  | [w, x, y, z] => do
    let w ← symbolValue? w
    let x ← symbolValue? x
    if z = pad then
      if y = pad then
        if x % 16 = 0 then some [UInt8.ofNat (w * 4 + x / 16)] else none
      else
        let y ← symbolValue? y
        if y % 4 = 0 then
          some [UInt8.ofNat (w * 4 + x / 16), UInt8.ofNat (x % 16 * 16 + y / 4)]
        else none
    else
      let y ← symbolValue? y
      let z ← symbolValue? z
      some [UInt8.ofNat (w * 4 + x / 16), UInt8.ofNat (x % 16 * 16 + y / 4),
        UInt8.ofNat (y % 4 * 64 + z)]
  | w :: x :: y :: z :: rest => do
    let w ← symbolValue? w
    let x ← symbolValue? x
    let y ← symbolValue? y
    let z ← symbolValue? z
    let more ← decode? rest
    some (UInt8.ofNat (w * 4 + x / 16) :: UInt8.ofNat (x % 16 * 16 + y / 4) ::
      UInt8.ofNat (y % 4 * 64 + z) :: more)
  | _ => none

end LiveConfig.Base64
