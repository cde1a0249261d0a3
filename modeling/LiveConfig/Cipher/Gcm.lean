import LiveConfig.Bytes

/-!
# Galois/counter mode

Authenticated encryption over any block cipher, without additional data. Texts are combined with
a key stream, so that sealing and opening apply the same map; a tag of sixteen bytes over the
sealed text tells whether it was made with the same key and nonce.
-/

namespace LiveConfig.Cipher.Gcm

/-- A block of sixteen bytes, first byte in the highest bits. -/
abbrev Block := BitVec 128

/-- The block that starts with the given bytes and goes on with zeros. -/
def Block.ofBytes (bs : Bytes) : Block :=
  BitVec.ofNat 128 (Bytes.natOfBigEndian ((bs ++ List.replicate 16 0).take 16))

/-- The sixteen bytes of a block. -/
def Block.toBytes (b : Block) : Bytes :=
  Bytes.bigEndian 16 b.toNat

/-- The product in the field of the mode, whose lowest power stands in the highest bit. -/
def multiply (x y : Block) : Block :=
  let step (acc : Block × Block) (i : Nat) : Block × Block :=
    let (z, v) := acc
    (if x.getMsbD i then z ^^^ v else z,
      if v.getLsbD 0 then (v >>> 1) ^^^ (0xe1#128 <<< 120) else v >>> 1)
  ((List.range 128).foldl step (0, y)).1

/-- Cuts a text into blocks, the last one filled up with zeros. -/
def blocks (bs : Bytes) : List Block :=
  if _done : bs = [] then [] else Block.ofBytes bs :: blocks (bs.drop 16)
termination_by bs.length
decreasing_by
  have := List.length_pos_iff.mpr _done
  simp; omega

/-- The hash of a sequence of blocks under the hash key `h`. -/
def ghash (h : Block) (bs : List Block) : Block :=
  bs.foldl (fun acc b => multiply (acc ^^^ b) h) 0

/-- The block that holds two bit lengths. -/
def lengthBlock (first second : Nat) : Block :=
  BitVec.ofNat 128 ((first <<< 64) + second)

/-- The next counter: the low 32 bits grow by one and wrap. -/
def increment (counter : Block) : Block :=
  (counter >>> 32 <<< 32) ||| ((counter.setWidth 32 + 1#32).setWidth 128)

/-- The counter that stands for a nonce. Twelve bytes are followed by the number one; any other
length is hashed. -/
def initialCounter (h : Block) (nonce : Bytes) : Block :=
  if nonce.length = 12 then Block.ofBytes (nonce ++ [0, 0, 0, 1])
  else ghash h (blocks nonce ++ [lengthBlock 0 (8 * nonce.length)])

/-- Adds the key stream that starts at the given counter to a text. -/
def addKeyStream (cipher : Block → Block) (counter : Block) (text : Bytes) : Bytes :=
  if _done : text = [] then []
  else
    List.zipWith (· ^^^ ·) (text.take 16) (cipher counter).toBytes ++
      addKeyStream cipher (increment counter) (text.drop 16)
termination_by text.length
decreasing_by
  have := List.length_pos_iff.mpr _done
  simp; omega

/-- The tag of a sealed text. -/
def tag (cipher : Block → Block) (counter : Block) (body : Bytes) : Bytes :=
  let h := cipher 0
  (cipher counter ^^^ ghash h (blocks body ++ [lengthBlock 0 (8 * body.length)])).toBytes

/-- Encrypts a text and gives its tag. -/
def close (cipher : Block → Block) (nonce text : Bytes) : Bytes × Bytes :=
  let counter := initialCounter (cipher 0) nonce
  let body := addKeyStream cipher (increment counter) text
  (body, tag cipher counter body)

/-- Decrypts a sealed text if the tag is its own. -/
def open? (cipher : Block → Block) (nonce body given : Bytes) : Option Bytes :=
  let counter := initialCounter (cipher 0) nonce
  if given = tag cipher counter body then some (addKeyStream cipher (increment counter) body)
  else none

end LiveConfig.Cipher.Gcm
