import LiveConfig.Cipher.ChaCha

/-!
# Chance

A seed stands for an endless sequence of fractions of the unit interval. It is spread into the key
of a stream cipher of twelve rounds, and each fraction is made of the next 64 bits of key stream.
Equal seeds give equal sequences, and a fraction can be had without those before it.
-/

namespace LiveConfig.Chance

/-- The next state of the generator that spreads a seed. -/
def advance (state : UInt64) : UInt64 :=
  state * 6364136223846793005 + 11634580027462260723

/-- The word that a state of the generator gives: some middle bits, turned by the highest ones. -/
def word (state : UInt64) : BitVec 32 :=
  (((state >>> 18) ^^^ state) >>> 27).toUInt32.toBitVec.rotateRight (state >>> 59).toNat

/-- The cipher key that a seed is spread into. -/
def key (seed : UInt64) : Vector (BitVec 32) 8 :=
  Vector.ofFn fun i => word (Nat.repeat advance (i + 1) seed)

/-- The fraction of the unit interval that 64 bits stand for: their highest 53 bits, as many as a
number holds exactly. -/
def unit (bits : BitVec 64) : Float :=
  (UInt64.ofBitVec (bits >>> 11)).toFloat / 9007199254740992.0

/-- The fraction at an index of the sequence of a seed. A block of key stream holds eight. -/
def fraction (seed : UInt64) (index : Nat) : Float :=
  let block := Cipher.ChaCha.block 6 (key seed) (index / 8)
  let low := block.getD (2 * (index % 8)) 0
  let high := block.getD (2 * (index % 8) + 1) 0
  unit (high ++ low)

end LiveConfig.Chance
