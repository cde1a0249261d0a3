import LiveConfig.Wire.Field

/-!
# Fields are read back

A field that can be written is read back from its bytes, whatever follows it, and so is a sequence
of fields. Numbers and words must have at most 64 bits, byte strings a length of at most 64 bits;
the second follows where all that is written is that short.
-/

namespace LiveConfig

/-- A number that fits the width is read back from its bytes, the least significant one first. -/
theorem Bytes.natOfLittleEndian_littleEndian (width n : Nat) (fits : n < Nat.pow 256 width) :
    natOfLittleEndian (littleEndian width n) = n := by
  induction width generalizing n with
  | zero =>
    have zero : n = 0 := Nat.lt_one_iff.mp fits
    simp [littleEndian, natOfLittleEndian, zero]
  | succ width inductionHypothesis =>
    have high : n / 256 < Nat.pow 256 width := by
      rw [Nat.div_lt_iff_lt_mul (by decide)]
      exact fits
    rw [littleEndian, natOfLittleEndian, inductionHypothesis _ high, UInt8.toNat_ofNat']
    omega

/-- The bytes of a number are as many as its width says. -/
theorem Bytes.length_littleEndian (width n : Nat) : (littleEndian width n).length = width := by
  induction width generalizing n with
  | zero => rfl
  | succ width inductionHypothesis => simp [littleEndian, inductionHypothesis]

namespace Wire

/-- Numbers and words can be written if they have at most 64 bits. What is only read past is not
written. -/
def Content.Writable : Content → Prop
  | .number n => n < UInt64.size
  | .word n => n < UInt64.size
  | .delimited _ => True
  | .other => False

/-- A field can be written if its content can and its key is a number of at most 32 bits. -/
structure Field.Writable (f : Field) : Prop where
  named : 0 < f.number
  key : 8 * f.number + 5 < UInt32.size
  content : f.content.Writable

/-- A key is read back, whatever follows it. -/
theorem Key.read?_write (k : Key) (rest : Bytes) (named : 0 < k.number) (known : k.form ≤ 5)
    (fits : 8 * k.number + 5 < UInt32.size) : read? (k.write ++ rest) = some (k, rest) := by
  have bits : 8 * k.number + k.form < UInt64.size := by
    simp only [UInt32.size, UInt64.size] at fits ⊢
    omega
  have accepted : 8 * k.number + k.form < UInt32.size ∧ (8 * k.number + k.form) % 8 ≤ 5 ∧
      8 ≤ 8 * k.number + k.form := by
    omega
  have number : (8 * k.number + k.form) / 8 = k.number := by omega
  have form : (8 * k.number + k.form) % 8 = k.form := by omega
  simp only [read?, write, Varint.read?_write _ rest bits, Option.bind_eq_bind, Option.bind_some]
  rw [if_pos accepted, number, form]

/-- Taking as many bytes as were put in front gives them back. -/
theorem takeBytes?_append (bs rest : Bytes) :
    takeBytes? bs.length (bs ++ rest) = some (bs, rest) := by
  simp [takeBytes?, List.splitAt_eq]

/-- A byte string after its length is read back, whatever follows it. -/
theorem takeDelimited?_write (bs rest : Bytes) (short : bs.length < UInt64.size) :
    takeDelimited? (Varint.write bs.length ++ bs ++ rest) = some (bs, rest) := by
  rw [takeDelimited?, List.append_assoc, Varint.read?_write _ _ short]
  exact takeBytes?_append bs rest

/-- A content is read back in the form in which it is written, whatever follows it. -/
theorem Content.read?_write (c : Content) (rest : Bytes) (writable : c.Writable)
    (short : c.write.length < UInt64.size) :
    read? c.form (c.write ++ rest) = some (c, rest) := by
  cases c with
  | number n => simp [read?, form, write, Varint.read?_write n rest writable]
  | word n =>
    have eight := takeBytes?_append (Bytes.littleEndian 8 n) rest
    rw [Bytes.length_littleEndian] at eight
    have back : Bytes.natOfLittleEndian (Bytes.littleEndian 8 n) = n :=
      Bytes.natOfLittleEndian_littleEndian 8 n writable
    simp [read?, form, write, eight, back]
  | delimited bs =>
    have bound : bs.length < UInt64.size := by
      simp only [write, List.length_append] at short
      omega
    simp only [read?, form, write, takeDelimited?_write bs rest bound, Option.map_some]
  | other => exact writable.elim

/-- A content that can be written has the form of a number, of eight bytes or of a byte string. -/
theorem Content.form_le (c : Content) (writable : c.Writable) : c.form ≤ 2 := by
  cases c <;> first | exact writable.elim | simp [form]

/-- A field is read back, whatever follows it, unless it is read as a byte string against its
key. -/
theorem Field.read?_write (delimited : Nat → Bool) (depth : Nat) (f : Field) (rest : Bytes)
    (writable : f.Writable) (forced : delimited f.number = true → f.content.form = 2)
    (short : f.write.length < UInt64.size) :
    read? delimited depth (f.write ++ rest) = some (f, rest) := by
  have form := f.content.form_le writable.content
  have bound : f.content.write.length < UInt64.size := by
    simp only [write, List.length_append] at short
    omega
  have key := Key.read?_write ⟨f.number, f.content.form⟩ (f.content.write ++ rest) writable.named
    (by simpa using Nat.le_trans form (by decide)) writable.key
  have chosen : (if delimited f.number = true then 2 else f.content.form) = f.content.form := by
    split
    · next named => exact (forced named).symm
    · rfl
  have noGroup : f.content.form ≠ groupStart := by
    simp only [groupStart]
    omega
  simp only [read?, write, List.append_assoc, key, Option.bind_eq_bind, Option.bind_some, chosen,
    if_neg noGroup, f.content.read?_write rest writable.content bound]

/-- The bytes of a field are not none. -/
theorem Field.write_pos (f : Field) : 0 < f.write.length := by
  have key : 0 < (Varint.write (8 * f.number + f.content.form)).length := by
    rw [Varint.write]
    split <;> simp
  simp only [write, Key.write, List.length_append]
  omega

/-- Fields are read back in order. -/
theorem readAll?_writeAll (delimited : Nat → Bool) (depth : Nat) (fields : List Field)
    (writable : ∀ f ∈ fields, f.Writable)
    (forced : ∀ f ∈ fields, delimited f.number = true → f.content.form = 2)
    (short : (writeAll fields).length < UInt64.size) :
    readAll? delimited depth (writeAll fields) = some fields := by
  have read (fuel : Nat) (enough : (writeAll fields).length ≤ fuel) :
      readFields? delimited depth fuel (writeAll fields) = some fields := by
    induction fields generalizing fuel with
    | nil => cases fuel <;> rfl
    | cons f rest inductionHypothesis =>
      have written : writeAll (f :: rest) = f.write ++ writeAll rest := rfl
      have positive := f.write_pos
      rw [written, List.length_append] at short enough
      obtain ⟨left, rfl⟩ : ∃ left, fuel = left + 1 := ⟨fuel - 1, by omega⟩
      obtain ⟨first, others⟩ := List.forall_mem_cons.mp writable
      obtain ⟨firstForced, othersForced⟩ := List.forall_mem_cons.mp forced
      have front := f.read?_write delimited depth (writeAll rest) first firstForced (by omega)
      have back := inductionHypothesis others othersForced (by omega) left (by omega)
      have filled : f.write ++ writeAll rest ≠ [] := by
        intro empty
        simp [(List.append_eq_nil_iff.mp empty).1] at positive
      rw [written]
      obtain ⟨b, bs, cons⟩ := List.exists_cons_of_ne_nil filled
      rw [cons, readFields?, ← cons, front]
      · simp [back]
      · simp
  exact read _ (Nat.le_refl _)

end Wire

end LiveConfig
