import LiveConfig.Bytes

/-!
# Hexadecimal byte strings

Each byte is written as two digits. Writing uses lower case; reading takes either case, and
`decode_encode` says that it undoes writing.
-/

namespace LiveConfig.Hex

/-- The digit for a number below sixteen. -/
def digit (n : Nat) : Char :=
  n.digitChar

/-- The two digits of a byte. -/
def encodeByte (b : UInt8) : List Char :=
  [digit (b.toNat / 16), digit (b.toNat % 16)]

/-- The digits of a byte string. -/
def encode (bs : Bytes) : String :=
  String.ofList (bs.flatMap encodeByte)

/-- Why a text is not hexadecimal. -/
inductive Fault where
  /-- The number of bytes of the text is odd. -/
  | oddLength
  /-- The byte at the position is not a digit. -/
  | badByte (byte : UInt8) (position : Nat)
deriving DecidableEq, Repr

/-- The number that an ASCII digit of base sixteen denotes. -/
def digitValue? (b : UInt8) : Option UInt8 :=
  if 48 ≤ b ∧ b ≤ 57 then some (b - 48)
  else if 97 ≤ b ∧ b ≤ 102 then some (b - 87)
  else if 65 ≤ b ∧ b ≤ 70 then some (b - 55)
  else none

/-- Reads pairs of digits, of which the first stands at the given position. -/
def decodeFrom (position : Nat) : Bytes → Except Fault Bytes
  | [] => .ok []
  | [_] => .error .oddLength
  | high :: low :: rest =>
    match digitValue? high, digitValue? low with
    | none, _ => .error (.badByte high position)
    | _, none => .error (.badByte low (position + 1))
    | some h, some l => (decodeFrom (position + 2) rest).map (List.cons (h * 16 + l))

/-- Reads a byte string. An odd number of bytes is reported before any bad one. -/
def decode (text : String) : Except Fault Bytes :=
  let bs := Bytes.ofText text
  if bs.length % 2 = 1 then .error .oddLength else decodeFrom 0 bs

/-- The digits that are read: sixteen in lower case, and six more in upper case. -/
def digits : List Char :=
  "0123456789abcdefABCDEF".toList

/-- A digit takes one byte, which denotes a number. -/
theorem digit_denotes (c : Char) (member : c ∈ digits) :
    c.utf8Size = 1 ∧ (digitValue? c.toUInt8).isSome := by
  have each : digits.all (fun c => c.utf8Size == 1 && (digitValue? c.toUInt8).isSome) = true := by
    decide +kernel
  simpa using List.all_eq_true.mp each c member

/-- Each number below sixteen is denoted by its own digit. -/
theorem digit_value {n : Nat} (small : n < 16) :
    digit n ∈ digits ∧ digitValue? (digit n).toUInt8 = some (UInt8.ofNat n) := by
  revert n
  decide +kernel

/-- Whatever is written consists of digits. -/
theorem mem_encode (bs : Bytes) : ∀ c ∈ (encode bs).toList, c ∈ digits := by
  intro c member
  rw [encode, String.toList_ofList, List.mem_flatMap] at member
  obtain ⟨b, -, among⟩ := member
  have bound := b.toNat_lt
  simp only [encodeByte, List.mem_cons, List.not_mem_nil, or_false] at among
  rcases among with rfl | rfl
  · exact (digit_value (by omega)).1
  · exact (digit_value (by omega)).1

/-- An even number of digits is read as half as many bytes. -/
theorem decodeFrom_digits (position : Nat) (bs : Bytes) (even : bs.length % 2 = 0)
    (all : ∀ b ∈ bs, (digitValue? b).isSome) :
    ∃ read, decodeFrom position bs = .ok read ∧ 2 * read.length = bs.length := by
  fun_induction decodeFrom position bs with
  | case1 => exact ⟨[], rfl, rfl⟩
  | case2 => simp at even
  | case3 => simp_all
  | case4 => simp_all
  | case5 position high low rest h l highDigit lowDigit inductionHypothesis =>
    obtain ⟨read, rest_read, size⟩ := inductionHypothesis
      (by simp only [List.length_cons] at even; omega)
      (fun b member => all b (List.mem_cons_of_mem _ (List.mem_cons_of_mem _ member)))
    refine ⟨(h * 16 + l) :: read, by rw [rest_read]; rfl, ?_⟩
    simp only [List.length_cons]
    omega

/-- The digits of a byte string are read as that byte string. -/
theorem decodeFrom_encode (position : Nat) (bs : Bytes) :
    decodeFrom position ((bs.flatMap encodeByte).map Char.toUInt8) = .ok bs := by
  induction bs generalizing position with
  | nil => rfl
  | cons b rest inductionHypothesis =>
    have bound := b.toNat_lt
    have high := (digit_value (n := b.toNat / 16) (by omega)).2
    have low := (digit_value (n := b.toNat % 16) (by omega)).2
    have whole : UInt8.ofNat (b.toNat / 16) * 16 + UInt8.ofNat (b.toNat % 16) = b := by
      apply UInt8.toNat_inj.mp
      have sixteen : (16 : UInt8).toNat = 16 := rfl
      simp only [UInt8.toNat_add, UInt8.toNat_mul, UInt8.toNat_ofNat', sixteen]
      omega
    simp only [List.flatMap_cons, encodeByte, List.cons_append, List.nil_append, List.map_cons,
      decodeFrom, high, low, inductionHypothesis, whole]
    rfl

/-- Two digits are written for each byte. -/
theorem length_encodeBytes (bs : Bytes) : (bs.flatMap encodeByte).length = 2 * bs.length := by
  induction bs with
  | nil => rfl
  | cons b rest inductionHypothesis =>
    simp only [List.flatMap_cons, List.length_append, inductionHypothesis, List.length_cons,
      encodeByte, List.length_nil]
    omega

/-- Reading undoes writing. -/
theorem decode_encode (bs : Bytes) : decode (encode bs) = .ok bs := by
  have digits := mem_encode bs
  rw [encode, String.toList_ofList] at digits
  have written := Bytes.ofText_ofList (bs.flatMap encodeByte)
    fun c member => (digit_denotes c (digits c member)).1
  simp only [decode, encode, written, List.length_map, length_encodeBytes, decodeFrom_encode]
  simp

/-- A text of digits, in either case, of which there are an even number, is read as half as many
bytes. -/
theorem decode_digits (text : String) (all : ∀ c ∈ text.toList, c ∈ digits)
    (even : text.length % 2 = 0) : ∃ bs, decode text = .ok bs ∧ 2 * bs.length = text.length := by
  have written := Bytes.ofText_ofList text.toList fun c member => (digit_denotes c (all c member)).1
  rw [String.ofList_toList] at written
  have size : (Bytes.ofText text).length = text.length := by
    rw [written, List.length_map, String.length_toList]
  obtain ⟨bs, read, half⟩ := decodeFrom_digits 0 (Bytes.ofText text) (by rwa [size]) (by
    intro b member
    rw [written] at member
    obtain ⟨c, among, rfl⟩ := List.mem_map.mp member
    exact (digit_denotes c (all c among)).2)
  exact ⟨bs, by simp [decode, size, even, read], by rw [half, size]⟩

end LiveConfig.Hex
