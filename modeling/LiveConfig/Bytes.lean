/-!
# Byte strings

Byte strings are lists, so that readers and writers recurse on them directly. A text is taken to
its UTF-8 bytes and back.
-/

namespace LiveConfig

/-- A byte string. -/
abbrev Bytes := List UInt8

namespace Bytes

/-- The UTF-8 form of a text. -/
def ofText (s : String) : Bytes :=
  s.toByteArray.data.toList

/-- The text whose UTF-8 form this is, if there is one. -/
def toText? (bs : Bytes) : Option String :=
  String.fromUTF8? ⟨bs.toArray⟩

theorem toText?_ofText (s : String) : toText? (ofText s) = some s := by
  have back : (⟨(ofText s).toArray⟩ : ByteArray) = s.toByteArray := by
    simp [ofText]
  simp [toText?, back, String.fromUTF8?, s.isValidUTF8, String.fromUTF8]

/-- A text of characters that take one byte each has the bytes of their numbers. -/
theorem ofText_ofList (cs : List Char) (single : ∀ c ∈ cs, c.utf8Size = 1) :
    ofText (String.ofList cs) = cs.map Char.toUInt8 := by
  have bytes : cs.flatMap String.utf8EncodeChar = cs.map Char.toUInt8 := by
    induction cs with
    | nil => rfl
    | cons c rest inductionHypothesis =>
      obtain ⟨first, others⟩ := List.forall_mem_cons.mp single
      rw [List.flatMap_cons, List.map_cons, String.utf8EncodeChar_eq_singleton first,
        inductionHypothesis others]
      rfl
  simp [ofText, List.utf8Encode, bytes]

/-- The bytes of a number below `256 ^ width`, most significant first. -/
def bigEndian (width n : Nat) : Bytes :=
  (List.range width).map fun i => UInt8.ofNat (n >>> (8 * (width - 1 - i)))

/-- The number whose bytes are given, most significant first. -/
def natOfBigEndian (bs : Bytes) : Nat :=
  bs.foldl (fun n b => 256 * n + b.toNat) 0

/-- The bytes of a number below `256 ^ width`, least significant first. -/
def littleEndian : Nat → Nat → Bytes
  | 0, _ => []
  | width + 1, n => UInt8.ofNat (n % 256) :: littleEndian width (n / 256)

/-- The number whose bytes are given, least significant first. -/
def natOfLittleEndian : Bytes → Nat
  | [] => 0
  | b :: rest => b.toNat + 256 * natOfLittleEndian rest

end Bytes

end LiveConfig
