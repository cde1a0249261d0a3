import LiveConfig.Bytes

/-!
# MurmurHash3, 32 bits

The hash that places a context in a split. Four bytes at a time are mixed into the state; up to
three bytes that remain are mixed once more without a rotation of the state.
-/

namespace LiveConfig.Digest.Murmur3

/-- Rotates a word to the left. -/
def rotate (x : UInt32) (places : UInt32) : UInt32 :=
  (x <<< places) ||| (x >>> (32 - places))

/-- Spreads the bits of a block. -/
def spread (k : UInt32) : UInt32 :=
  rotate (k * 0xcc9e2d51) 15 * 0x1b873593

/-- Mixes one whole block into the state. -/
def mix (h k : UInt32) : UInt32 :=
  rotate (h ^^^ spread k) 13 * 5 + 0xe6546b64

/-- Mixes a byte string into the state. -/
def absorb (h : UInt32) : Bytes → UInt32
  | a :: b :: c :: d :: rest =>
    let k := a.toUInt32 ||| b.toUInt32 <<< 8 ||| c.toUInt32 <<< 16 ||| d.toUInt32 <<< 24
    absorb (mix h k) rest
  | [a, b, c] => h ^^^ spread (a.toUInt32 ||| b.toUInt32 <<< 8 ||| c.toUInt32 <<< 16)
  | [a, b] => h ^^^ spread (a.toUInt32 ||| b.toUInt32 <<< 8)
  | [a] => h ^^^ spread a.toUInt32
  | [] => h

/-- Makes every bit of the state depend on every other. -/
def finish (h : UInt32) : UInt32 :=
  let h := (h ^^^ (h >>> 16)) * 0x85ebca6b
  let h := (h ^^^ (h >>> 13)) * 0xc2b2ae35
  h ^^^ (h >>> 16)

/-- The hash of a byte string under a seed. -/
def hash (seed : UInt32) (bs : Bytes) : UInt32 :=
  finish (absorb seed bs ^^^ UInt32.ofNat bs.length)

end LiveConfig.Digest.Murmur3
