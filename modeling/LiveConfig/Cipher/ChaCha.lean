/-!
# The ChaCha stream cipher

A block of key stream is sixteen words. It starts from four constants, the key, and the number of
the block; rounds stir the words, and what the words were at first is added to them at the end, so
that the rounds cannot be undone.
-/

namespace LiveConfig.Cipher.ChaCha

/-- A word of 32 bits. -/
abbrev Word := BitVec 32

/-- Sixteen words. -/
abbrev Block := Vector Word 16

/-- Adds the word at `y` to the one at `x`, and turns what that makes of the one at `z`. -/
def stir (places : Nat) (s : Block) (x y z : Fin 16) : Block :=
  let sum := s[x] + s[y]
  (s.set x sum).set z ((s[z] ^^^ sum).rotateLeft places)

/-- Stirs four words together. -/
def quarter (s : Block) (a b c d : Fin 16) : Block :=
  let s := stir 12 (stir 16 s a b d) c d b
  stir 7 (stir 8 s a b d) c d b

/-- Stirs the columns of the square of words and then its diagonals. -/
def doubleRound (s : Block) : Block :=
  let s := quarter (quarter (quarter (quarter s 0 4 8 12) 1 5 9 13) 2 6 10 14) 3 7 11 15
  quarter (quarter (quarter (quarter s 0 5 10 15) 1 6 11 12) 2 7 8 13) 3 4 9 14

/-- The words that every block starts from. -/
def constants : Vector Word 4 := #v[0x61707865, 0x3320646e, 0x79622d32, 0x6b206574]

/-- The words that a block starts from. -/
def start (key : Vector Word 8) (number : Nat) : Block :=
  constants ++ key ++ #v[BitVec.ofNat 32 number, BitVec.ofNat 32 (number >>> 32), 0, 0]

/-- A block of key stream that takes the given number of double rounds. -/
def block (doubleRounds : Nat) (key : Vector Word 8) (number : Nat) : Block :=
  let s := start key number
  Vector.zipWith (· + ·) s (Nat.repeat doubleRound doubleRounds s)

end LiveConfig.Cipher.ChaCha
