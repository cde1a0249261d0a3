import LiveConfig.Proofs.ValueRoundTrip

/-!
# Equal bytes are bytes of equal values

No two values have the same bytes. Reading back would show this of the values that a reader
accepts; here it is shown of all, of values that break the rules, nest too deep for any reader or
are too long for one. Every part of the format tells where it ends, so whatever is put in front of
other bytes can be told from what follows, and a sequence of fields is known from its bytes.

Floats are equal here if their bits are, so the two zeros differ; there is one NaN, whose sign and
payload are not kept. Equality of values can be decided by their bytes.
-/

namespace LiveConfig

namespace Wire

/-- A number ends where its bytes say, whatever follows. -/
theorem Varint.write_append_injective (m n : Nat) (rest other : Bytes)
    (same : write m ++ rest = write n ++ other) : m = n ∧ rest = other := by
  induction m using Nat.strong_induction_on generalizing n with
  | h m inductionHypothesis =>
    have head {a b : Nat} (bytes : UInt8.ofNat a = UInt8.ofNat b) : a % 256 = b % 256 := by
      simpa using congrArg UInt8.toNat bytes
    rw [write.eq_def m, write.eq_def n] at same
    split at same
    · next small =>
      split at same
      · next otherSmall =>
        obtain ⟨bytes, tails⟩ := List.cons.inj same
        have := head bytes
        exact ⟨by omega, tails⟩
      · next otherLarge =>
        have := head (List.cons.inj same).1
        omega
    · next large =>
      split at same
      · next otherSmall =>
        have := head (List.cons.inj same).1
        omega
      · next otherLarge =>
        obtain ⟨bytes, tails⟩ := List.cons.inj same
        obtain ⟨high, after⟩ := inductionHypothesis (m / 128) (by omega) (n / 128) tails
        have := head bytes
        exact ⟨by omega, after⟩

/-- Words must fit their eight bytes to be known from them. -/
def Content.Bounded : Content → Prop
  | .word n => n < UInt64.size
  | _ => True

/-- What can be written is bounded. -/
theorem Content.Writable.bounded {c : Content} (writable : c.Writable) : c.Bounded := by
  cases c with
  | word n => exact writable
  | number | delimited | other => trivial

/-- A content ends where its bytes say, if it is known how it is written. -/
theorem Content.write_append_injective (c d : Content) (rest other : Bytes) (bounded : c.Bounded)
    (otherBounded : d.Bounded) (form : c.form = d.form)
    (same : c.write ++ rest = d.write ++ other) : c = d ∧ rest = other := by
  cases c with
  | number m =>
    cases d with
    | number n =>
      obtain ⟨rfl, tails⟩ := Varint.write_append_injective m n rest other same
      exact ⟨rfl, tails⟩
    | _ => simp [Content.form] at form
  | word m =>
    cases d with
    | word n =>
      obtain ⟨words, tails⟩ := List.append_inj same (by simp [write, Bytes.length_littleEndian])
      have back := congrArg Bytes.natOfLittleEndian words
      simp only [write] at back
      rw [Bytes.natOfLittleEndian_littleEndian 8 m bounded,
        Bytes.natOfLittleEndian_littleEndian 8 n otherBounded] at back
      exact ⟨congrArg _ back, tails⟩
    | _ => simp [Content.form] at form
  | delimited bs =>
    cases d with
    | delimited cs =>
      simp only [write, List.append_assoc] at same
      obtain ⟨lengths, tails⟩ := Varint.write_append_injective _ _ _ _ same
      obtain ⟨strings, after⟩ := List.append_inj tails lengths
      exact ⟨congrArg _ strings, after⟩
    | _ => simp [Content.form] at form
  | other =>
    cases d with
    | other => exact ⟨rfl, same⟩
    | _ => simp [Content.form] at form

/-- A field ends where its bytes say: the key tells how the content is written. -/
theorem Field.write_append_injective (f g : Field) (rest other : Bytes)
    (bounded : f.content.Bounded) (otherBounded : g.content.Bounded)
    (same : f.write ++ rest = g.write ++ other) : f = g ∧ rest = other := by
  simp only [write, Key.write, List.append_assoc] at same
  obtain ⟨keys, tails⟩ := Varint.write_append_injective _ _ _ _ same
  have forms (c : Content) : c.form ≤ 5 := by cases c <;> simp [Content.form]
  have form := forms f.content
  have otherForm := forms g.content
  obtain ⟨contents, after⟩ := Content.write_append_injective f.content g.content rest other bounded
    otherBounded (by omega) tails
  have number : f.number = g.number := by omega
  cases f
  cases g
  simp_all

/-- Fields are known from their bytes. -/
theorem writeAll_injective (fields others : List Field) (bounded : ∀ f ∈ fields, f.content.Bounded)
    (otherBounded : ∀ f ∈ others, f.content.Bounded)
    (same : writeAll fields = writeAll others) : fields = others := by
  have written (f : Field) (rest : List Field) :
      writeAll (f :: rest) = f.write ++ writeAll rest := rfl
  have filled (f : Field) (rest : List Field) : writeAll (f :: rest) ≠ [] := by
    intro empty
    have positive := f.write_pos
    rw [written, List.append_eq_nil_iff] at empty
    simp [empty.1] at positive
  induction fields generalizing others with
  | nil =>
    cases others with
    | nil => rfl
    | cons g rest => exact absurd same.symm (filled g rest)
  | cons f fields inductionHypothesis =>
    cases others with
    | nil => exact absurd same (filled f fields)
    | cons g others =>
      obtain ⟨first, later⟩ := List.forall_mem_cons.mp bounded
      obtain ⟨otherFirst, otherLater⟩ := List.forall_mem_cons.mp otherBounded
      rw [written, written] at same
      obtain ⟨rfl, tails⟩ := Field.write_append_injective f g _ _ first otherFirst same
      rw [inductionHypothesis others later otherLater tails]

/-- A message in a field is known by its fields. -/
theorem Field.ofMessage_injective (number : Nat) (fields others : List Field)
    (bounded : ∀ f ∈ fields, f.content.Bounded) (otherBounded : ∀ f ∈ others, f.content.Bounded)
    (same : ofMessage number fields = ofMessage number others) : fields = others := by
  simp only [ofMessage, ofBytes, mk.injEq, Content.delimited.injEq, true_and] at same
  exact writeAll_injective fields others bounded otherBounded same

/-- A field that is read back holds one thing only. -/
theorem Field.Holds.unique {α : Type} {f g : Field} {get : Field → Option α} {a b : α}
    (holds : f.Holds get a) (other : g.Holds get b) (same : f = g) : a = b := by
  have held := holds.held
  rw [same, other.held] at held
  exact (Option.some.inj held).symm

/-- Fields of one number can be told from those of others that follow. -/
theorem append_numbered_injective (number : Nat) (fields fields' others others' : List Field)
    (here : ∀ f ∈ fields, f.number = number) (here' : ∀ f ∈ fields', f.number = number)
    (there : ∀ f ∈ others, f.number ≠ number) (there' : ∀ f ∈ others', f.number ≠ number)
    (same : fields ++ others = fields' ++ others') : fields = fields' ∧ others = others' := by
  have front (a b : List Field) (numbered : ∀ f ∈ a, f.number = number)
      (different : ∀ f ∈ b, f.number ≠ number) :
      (a ++ b).filter (·.number = number) = a := by
    rw [List.filter_append, List.filter_eq_self.mpr (by simpa using numbered),
      List.filter_eq_nil_iff.mpr (by simpa using different), List.append_nil]
  have fronts : fields = fields' := by
    rw [← front fields others here there, ← front fields' others' here' there', same]
  rw [fronts] at same
  exact ⟨fronts, List.append_cancel_left same⟩

/-- What is left out where it holds the default is known all the same. -/
theorem unlessDefault_injective {α : Type} [BEq α] [LawfulBEq α] (default : α) (field : α → Field)
    (injective : Function.Injective field) : Function.Injective (unlessDefault default field) := by
  intro a b same
  by_cases first : a = default
  · by_cases second : b = default
    · rw [first, second]
    · simp [unlessDefault, first, second] at same
  · by_cases second : b = default
    · simp [unlessDefault, first, second] at same
    · simp only [unlessDefault, beq_iff_eq, first, second, if_false, List.cons.injEq,
        and_true] at same
      exact injective same

/-- What is left out where there is nothing is known all the same. -/
theorem optional_injective {α : Type} (field : α → Field) (injective : Function.Injective field) :
    Function.Injective (optional field) := by
  intro a b same
  cases a with
  | none =>
    cases b with
    | none => rfl
    | some y => simp [optional] at same
  | some x =>
    cases b with
    | none => simp [optional] at same
    | some y =>
      simp only [optional, List.cons.injEq, and_true] at same
      rw [injective same]

section

variable (number : Nat) (named : 0 < number ∧ 8 * number + 5 < UInt32.size)
include named

theorem Field.ofText_injective : Function.Injective (ofText number) := fun s t same =>
  (ofText_holds number named s).unique (ofText_holds number named t) same

theorem Field.ofInt64_injective : Function.Injective (ofInt64 number) := fun m n same =>
  (ofInt64_holds number named m).unique (ofInt64_holds number named n) same

theorem Field.ofInt32_injective : Function.Injective (ofInt32 number) := fun m n same =>
  (ofInt32_holds number named m).unique (ofInt32_holds number named n) same

end

/-- What can be merged is bounded. -/
theorem Merges.bounded {M : Type} {merge : Nat → M → Field → Option M} {start result : M}
    {fields : List Field} {levels : Nat} (merges : Merges merge start fields levels result) :
    ∀ f ∈ fields, f.content.Bounded :=
  fun f member => (merges.writable f member).content.bounded

/-- The fields of the arms of a split are messages of one number. -/
theorem armFields_messages (arms : List (Arm Value)) :
    ∀ f ∈ armFields arms, f.number = 1 ∧ f.content.Bounded := by
  induction arms with
  | nil => simp [armFields]
  | cons arm arms inductionHypothesis =>
    rw [armFields]
    exact List.forall_mem_cons.mpr ⟨⟨rfl, trivial⟩, inductionHypothesis⟩

/-- Texts that may be missing have fields of one number. -/
theorem optionalText_fields (number : Nat) (s : Option String) :
    ∀ f ∈ optional (.ofText number) s, f.number = number ∧ f.content.Bounded := by
  cases s with
  | none => simp [optional]
  | some s => simpa [optional] using ⟨rfl, trivial⟩

/-- The numbers of the levels tell them apart. -/
theorem levelNumber_injective : Function.Injective levelNumber := by
  intro a b same
  have back := congrArg levelOfNumber? same
  rw [levelOfNumber?_levelNumber, levelOfNumber?_levelNumber] at back
  exact Option.some.inj back

/-- The numbers of the origins tell them apart. -/
theorem originNumber_injective : Function.Injective originNumber := by
  intro a b same
  cases a <;> cases b <;> first | rfl | simp [originNumber] at same

/-- The number of the field that a payload is written in. -/
def fieldNumber : Payload → Nat
  | .int _ => 1
  | .text _ => 2
  | .bytes _ => 3
  | .double _ => 4
  | .bool _ => 5
  | .split _ => 6
  | .logLevel _ => 9
  | .texts _ => 10
  | .range _ => 11
  | .provided _ => 12
  | .json _ => 15
  | .duration _ => 16

/-- The number tells what a payload holds. -/
theorem fieldNumber_eq (p q : Payload) (same : payloadField p = payloadField q) :
    fieldNumber p = fieldNumber q := by
  have number (p : Payload) : (payloadField p).number = fieldNumber p := by
    cases p <;> rfl
  rw [← number, ← number, same]

/-- The bounds of a range are known from their fields. -/
theorem rangeFields_injective (r q : IntRange)
    (same : optional (.ofInt64 1) r.lower ++ optional (.ofInt64 2) r.upper =
      optional (.ofInt64 1) q.lower ++ optional (.ofInt64 2) q.upper) : r = q := by
  have numbered (number : Nat) (n : Option Int64) :
      ∀ f ∈ optional (.ofInt64 number) n, f.number = number := by
    cases n <;> simp [optional, Field.ofInt64]
  have later (n : Option Int64) : ∀ f ∈ optional (.ofInt64 2) n, f.number ≠ 1 := by
    intro f member
    simp [numbered 2 n f member]
  obtain ⟨lower, upper⟩ := append_numbered_injective 1 _ _ _ _ (numbered 1 _) (numbered 1 _)
    (later _) (later _) same
  cases r
  cases q
  rw [IntRange.mk.injEq]
  exact ⟨optional_injective _ (Field.ofInt64_injective 1 (by decide)) lower,
    optional_injective _ (Field.ofInt64_injective 2 (by decide)) upper⟩

/-- A payload that is no split is known from its field. -/
theorem leafField_injective (p q : Payload) (leaf : fieldNumber p ≠ 6)
    (same : payloadField p = payloadField q) : p = q := by
  have kind := fieldNumber_eq p q same
  cases p with
  | int m =>
    cases q with
    | int n => rw [Field.ofInt64_injective 1 (by decide) same]
    | _ => simp [fieldNumber] at kind
  | text s =>
    cases q with
    | text t => rw [Field.ofText_injective 2 (by decide) same]
    | _ => simp [fieldNumber] at kind
  | bytes bs =>
    cases q with
    | bytes cs =>
      have holds := Field.ofBytes_holds 3 (by decide)
      rw [(holds bs).unique (holds cs) same]
    | _ => simp [fieldNumber] at kind
  | double x =>
    cases q with
    | double y =>
      have holds := Field.ofDouble_holds 4 (by decide)
      rw [(holds x).unique (holds y) same]
    | _ => simp [fieldNumber] at kind
  | bool b =>
    cases q with
    | bool c =>
      have holds := Field.ofBool_holds 5 (by decide)
      rw [(holds b).unique (holds c) same]
    | _ => simp [fieldNumber] at kind
  | split s => exact absurd rfl leaf
  | logLevel a =>
    cases q with
    | logLevel b => rw [levelNumber_injective (Field.ofInt32_injective 9 (by decide) same)]
    | _ => simp [fieldNumber] at kind
  | texts list =>
    cases q with
    | texts other =>
      have fields := Field.ofMessage_injective 10 _ _ (texts_merge list).bounded
        (texts_merge other).bounded same
      rw [List.map_injective_iff.mpr (Field.ofText_injective 1 (by decide)) fields]
    | _ => simp [fieldNumber] at kind
  | range r =>
    cases q with
    | range other =>
      have fields := Field.ofMessage_injective 11 _ _ (range_merges r).bounded
        (range_merges other).bounded same
      rw [rangeFields_injective r other fields]
    | _ => simp [fieldNumber] at kind
  | provided p =>
    cases q with
    | provided other =>
      have fields := Field.ofMessage_injective 12 _ _ (provided_merges p).bounded
        (provided_merges other).bounded same
      simp only [List.cons.injEq, and_true] at fields
      obtain ⟨origin, name⟩ := fields
      cases p
      cases other
      rw [Payload.provided.injEq, Provided.mk.injEq]
      exact ⟨originNumber_injective (Field.ofInt32_injective 1 (by decide) origin),
        Field.ofText_injective 2 (by decide) name⟩
    | _ => simp [fieldNumber] at kind
  | json document =>
    cases q with
    | json other =>
      have fields := Field.ofMessage_injective 15 _ _ (document_merges document).bounded
        (document_merges other).bounded same
      rw [unlessDefault_injective _ _ (Field.ofText_injective 1 (by decide)) fields]
    | _ => simp [fieldNumber] at kind
  | duration definition =>
    cases q with
    | duration other =>
      have fields := Field.ofMessage_injective 16 _ _ (document_merges definition).bounded
        (document_merges other).bounded same
      rw [unlessDefault_injective _ _ (Field.ofText_injective 1 (by decide)) fields]
    | _ => simp [fieldNumber] at kind

/-- The marks of a value are known from their fields. -/
theorem markFields_injective (c c' : Bool) (d d' : Option String)
    (same : (if c then [.ofBool 13 true] else []) ++ optional (.ofText 14) d =
      (if c' then [.ofBool 13 true] else []) ++ optional (.ofText 14) d') : c = c' ∧ d = d' := by
  have numbered (c : Bool) : ∀ f ∈ (if c then [Field.ofBool 13 true] else []), f.number = 13 := by
    cases c <;> simp [Field.ofBool]
  have later (d : Option String) : ∀ f ∈ optional (.ofText 14) d, f.number ≠ 13 := by
    intro f member
    simp [(optionalText_fields 14 d f member).1]
  obtain ⟨shown, sealed⟩ := append_numbered_injective 13 _ _ _ _ (numbered c) (numbered c')
    (later d) (later d') same
  refine ⟨?_, optional_injective _ (Field.ofText_injective 14 (by decide)) sealed⟩
  cases c <;> cases c' <;> simp_all

mutual

/-- A payload is known from its field. -/
theorem payloadField_injective : (p q : Payload) → payloadField p = payloadField q → p = q
  | .split ⟨arms, hashBy⟩, q, same => by
    have kind := fieldNumber_eq _ q same
    cases q with
    | split s =>
      obtain ⟨others, otherHashBy⟩ := s
      have bounded (arms : List (Arm Value)) (hashBy : Option String) :
          ∀ f ∈ armFields arms ++ optional (.ofText 2) hashBy, f.content.Bounded :=
        List.forall_mem_append.mpr ⟨fun f member => (armFields_messages arms f member).2,
          fun f member => (optionalText_fields 2 hashBy f member).2⟩
      have later (hashBy : Option String) : ∀ f ∈ optional (.ofText 2) hashBy, f.number ≠ 1 := by
        intro f member
        simp [(optionalText_fields 2 hashBy f member).1]
      have fields := Field.ofMessage_injective 6 _ _ (bounded arms hashBy)
        (bounded others otherHashBy) same
      obtain ⟨front, back⟩ := append_numbered_injective 1 _ _ _ _
        (fun f member => (armFields_messages arms f member).1)
        (fun f member => (armFields_messages others f member).1) (later hashBy)
        (later otherHashBy) fields
      rw [armFields_injective arms others front,
        optional_injective _ (Field.ofText_injective 2 (by decide)) back]
    | _ => simp [fieldNumber] at kind
  | .int _, q, same | .text _, q, same | .bytes _, q, same | .double _, q, same
  | .bool _, q, same | .logLevel _, q, same | .texts _, q, same | .range _, q, same
  | .provided _, q, same | .json _, q, same | .duration _, q, same =>
    leafField_injective _ q (by simp [fieldNumber]) same
termination_by structural p => p

/-- A value is known from its fields. -/
theorem valueFields_injective : (v w : Value) → valueFields v = valueFields w → v = w
  | ⟨payload, confidential, decryptWith⟩, ⟨other, otherConfidential, otherDecryptWith⟩, same => by
    simp only [valueFields, List.cons_append, List.cons.injEq] at same
    obtain ⟨content, marks⟩ := same
    obtain ⟨rfl, rfl⟩ := markFields_injective _ _ _ _ marks
    rw [payloadField_injective payload other content]
termination_by structural v => v

/-- The arms of a split are known from their fields. -/
theorem armFields_injective :
    (arms others : List (Arm Value)) → armFields arms = armFields others → arms = others
  | [], others, same => by
    cases others with
    | nil => rfl
    | cons => simp [armFields] at same
  | ⟨weight, value⟩ :: arms, others, same => by
    cases others with
    | nil => simp [armFields] at same
    | cons other others =>
      obtain ⟨otherWeight, otherValue⟩ := other
      have numbered (w : Int32) : ∀ f ∈ unlessDefault 0 (.ofInt32 1) w,
          f.number = 1 ∧ f.content.Bounded := by
        intro f member
        unfold unlessDefault at member
        split at member
        · contradiction
        · obtain rfl := List.mem_singleton.mp member
          exact ⟨rfl, trivial⟩
      have bounded (w : Int32) (v : Value) :
          ∀ f ∈ unlessDefault 0 (.ofInt32 1) w ++ [.ofMessage 2 (valueFields v)],
            f.content.Bounded :=
        List.forall_mem_append.mpr ⟨fun f member => (numbered w f member).2,
          List.forall_mem_singleton.mpr trivial⟩
      have later (v : Value) : ∀ f ∈ [Field.ofMessage 2 (valueFields v)], f.number ≠ 1 :=
        List.forall_mem_singleton.mpr (by simp [Field.ofMessage, Field.ofBytes])
      simp only [armFields, List.cons.injEq] at same
      obtain ⟨first, rest⟩ := same
      have fields := Field.ofMessage_injective 1 _ _ (bounded weight value)
        (bounded otherWeight otherValue) first
      obtain ⟨weights, values⟩ := append_numbered_injective 1 _ _ _ _
        (fun f member => (numbered weight f member).1)
        (fun f member => (numbered otherWeight f member).1) (later value) (later otherValue) fields
      have messages := Field.ofMessage_injective 2 _ _ (value_merges value).bounded
        (value_merges otherValue).bounded (List.cons.inj values).1
      rw [unlessDefault_injective _ _ (Field.ofInt32_injective 1 (by decide)) weights,
        valueFields_injective value otherValue messages, armFields_injective arms others rest]
termination_by structural arms => arms

end

end Wire

namespace Value

/-- Values with equal bytes are equal. -/
theorem encode_injective : Function.Injective encode := by
  intro v w same
  refine Wire.valueFields_injective v w ?_
  exact Wire.writeAll_injective _ _ (Wire.value_merges v).bounded (Wire.value_merges w).bounded same

/-- Whether values are equal, doubles by their bits, can be decided by their bytes. -/
instance : DecidableEq Value := fun v w =>
  decidable_of_iff (v.encode = w.encode) encode_injective.eq_iff

end Value

end LiveConfig
