import Mathlib
import LiveConfig.Proofs.FieldRoundTrip

/-!
# Merging fields into messages

What a message becomes when fields are merged into it depends on the levels that are left: nested
messages need some. `Merges` says both at once, what the message becomes and how many levels that
takes, so that a reader that gives up at a limit is described by an equation and not only where it
succeeds. A sequence of fields needs as many levels as the neediest of them, and a nested message
one more than its fields.

The lemmas follow the ways in which fields are written: one after the other, left out where they
hold a default, repeated, or nested.
-/

namespace LiveConfig.Wire

/-- What is read where so many levels are needed and so many are left. -/
def within {M : Type} (levels depth : Nat) (message : M) : Option M :=
  if levels ≤ depth then some message else none

/-- Merging the fields into a message gives the result where the levels that they need are left, and
nothing elsewhere. -/
structure Merges {M : Type} (merge : Nat → M → Field → Option M) (start : M) (fields : List Field)
    (levels : Nat) (result : M) : Prop where
  writable : ∀ f ∈ fields, f.Writable
  merged : (writeAll fields).length < UInt64.size →
    ∀ depth, fields.foldlM (merge depth) start = within levels depth result

/-- The most levels that any member of a list needs. -/
def deepest {α : Type} (levels : α → Nat) (xs : List α) : Nat :=
  xs.foldr (fun x most => max (levels x) most) 0

/-- A list whose members need no level needs none. -/
theorem deepest_zero {α : Type} (xs : List α) : deepest (fun _ => 0) xs = 0 := by
  induction xs with
  | nil => rfl
  | cons x rest inductionHypothesis => simp [deepest]

/-- If each member of a list needs one level more, so does the list, unless it is empty. -/
theorem deepest_succ {α : Type} (levels : α → Nat) (xs : List α) (some : xs ≠ []) :
    deepest (fun x => levels x + 1) xs = deepest levels xs + 1 := by
  induction xs with
  | nil => contradiction
  | cons x rest inductionHypothesis =>
    by_cases last : rest = []
    · simp [deepest, last]
    · have others := inductionHypothesis last
      simp only [deepest, List.foldr_cons] at others ⊢
      omega

/-- What needs no more levels is read. -/
theorem within_zero {M : Type} (depth : Nat) (message : M) :
    within 0 depth message = some message :=
  if_pos (Nat.zero_le depth)

/-- Of two readings in turn the neediest decides. -/
theorem within_bind {M N : Type} (first second depth : Nat) (message : M) (next : M → Option N)
    (result : N) (continued : next message = within second depth result) :
    (within first depth message).bind next = within (max first second) depth result := by
  by_cases enough : first ≤ depth
  · have limits : max first second ≤ depth ↔ second ≤ depth := by omega
    simp [within, enough, continued, limits]
  · have exceeded : ¬max first second ≤ depth := by omega
    simp [within, enough, exceeded]

/-- The order of a list does not matter for how many levels it needs. -/
theorem deepest_perm {α : Type} (levels : α → Nat) (xs ys : List α) (same : xs.Perm ys) :
    deepest levels xs = deepest levels ys := by
  induction same with
  | nil => rfl
  | cons x _ inductionHypothesis => simp only [deepest, List.foldr_cons] at *; omega
  | swap x y rest => simp only [deepest, List.foldr_cons]; omega
  | trans _ _ first second => exact first.trans second

/-- A field can be written and holds what a reader of its kind gets from it. -/
structure Field.Holds {α : Type} (f : Field) (get : Field → Option α) (a : α) : Prop where
  writable : f.Writable
  held : get f = some a

namespace Field

variable (number : Nat) (named : 0 < number ∧ 8 * number + 5 < UInt32.size)
include named

/-- A signed 64-bit number is read back. -/
theorem ofInt64_holds (n : Int64) : (ofInt64 number n).Holds int64? n where
  writable := ⟨named.1, named.2, n.toUInt64.toNat_lt⟩
  held := by
    have back : (UInt64.ofNat n.toUInt64.toNat).toInt64 = n := by
      rw [UInt64.ofNat_toNat]
      rfl
    rw [int64?, ofInt64, number?, Option.map_some, back]

/-- A signed 32-bit number is read back, though it is written with 64 bits. -/
theorem ofInt32_holds (n : Int32) : (ofInt32 number n).Holds int32? n where
  writable := (ofInt64_holds number named n.toInt64).writable
  held := by
    have low : (UInt32.ofNat n.toInt64.toUInt64.toNat).toInt32 = n.toInt64.toInt32 := by
      apply Int32.toBitVec_inj.mp
      calc (UInt32.ofNat n.toInt64.toUInt64.toNat).toInt32.toBitVec
        _ = n.toInt64.toBitVec.setWidth 32 := BitVec.eq_of_toNat_eq (by simp)
        _ = n.toInt64.toBitVec.signExtend 32 :=
          (BitVec.signExtend_eq_setWidth_of_le _ (by decide)).symm
    rw [int32?, ofInt32, ofInt64, number?, Option.map_some, low, Int32.toInt32_toInt64]

/-- A truth value is read back. -/
theorem ofBool_holds (b : Bool) : (ofBool number b).Holds bool? b where
  writable := ⟨named.1, named.2, Nat.lt_of_le_of_lt b.toNat_le (by decide)⟩
  held := by cases b <;> rfl

/-- A double is read back, bit by bit. -/
theorem ofDouble_holds (x : Double) : (ofDouble number x).Holds double? x where
  writable := ⟨named.1, named.2, x.bits.toNat_lt⟩
  held := by simp [ofDouble, double?]

/-- A byte string is read back. -/
theorem ofBytes_holds (bs : Bytes) : (ofBytes number bs).Holds bytes? bs where
  writable := ⟨named.1, named.2, trivial⟩
  held := rfl

/-- A text is read back. -/
theorem ofText_holds (s : String) : (ofText number s).Holds text? s where
  writable := ⟨named.1, named.2, trivial⟩
  held := Bytes.toText?_ofText s

end Field

/-- Byte strings that are sequences of fields follow each other as the fields do. -/
theorem writeAll_append (fields others : List Field) :
    writeAll (fields ++ others) = writeAll fields ++ writeAll others :=
  List.flatMap_append

/-- A nested message is shorter than the field that holds it. -/
theorem length_message_lt (number : Nat) (fields : List Field) :
    (writeAll fields).length < (Field.ofMessage number fields).write.length := by
  have key : 0 < (Key.write ⟨number, 2⟩).length := by
    rw [Key.write, Varint.write]
    split <;> simp
  simp only [Field.write, Field.ofMessage, Field.ofBytes, Content.form, Content.write,
    List.length_append]
  omega

/-- Nesting a message costs one level. Its fields are read as they were written. -/
theorem nest?_ofMessage {M : Type} (delimited : Nat → Bool) (merge : Nat → M → Field → Option M)
    (start result : M) (number levels depth : Nat) (fields : List Field)
    (merges : Merges merge start fields levels result)
    (forced : ∀ f ∈ fields, delimited f.number = true → f.content.form = 2)
    (short : (writeAll fields).length < UInt64.size) :
    nest? delimited depth merge start (.ofMessage number fields) =
      within (levels + 1) depth result := by
  cases depth with
  | zero => simp [nest?, within]
  | succ depth =>
    have read := readAll?_writeAll delimited depth fields merges.writable forced short
    have folded := merges.merged short depth
    simp only [nest?, Field.bytes?, Field.ofMessage, Field.ofBytes, Option.bind_eq_bind,
      Option.bind_some, read, folded]
    simp [within]

namespace Merges

variable {M : Type} {merge : Nat → M → Field → Option M}

/-- How many levels are needed can be said in another way. -/
theorem leveled {start result : M} {fields : List Field} {levels more : Nat}
    (merges : Merges merge start fields levels result) (same : levels = more) :
    Merges merge start fields more result :=
  same ▸ merges

/-- No fields change nothing. -/
theorem nil (start : M) : Merges merge start [] 0 start where
  writable := by simp
  merged _ depth := (within_zero depth start).symm

/-- Fields that follow each other are merged in turn. -/
theorem append {start middle result : M} {fields others : List Field} {levels more : Nat}
    (first : Merges merge start fields levels middle)
    (second : Merges merge middle others more result) :
    Merges merge start (fields ++ others) (max levels more) result where
  writable f member := by
    rcases List.mem_append.mp member with early | late
    · exact first.writable f early
    · exact second.writable f late
  merged short depth := by
    rw [writeAll_append, List.length_append] at short
    rw [List.foldlM_append, first.merged (by omega) depth]
    exact within_bind levels more depth middle _ result (second.merged (by omega) depth)

/-- A field that is no message needs no level: what it holds is put into the message. -/
theorem scalar {α : Type} {start : M} {f : Field} {get : Field → Option α} {a : α} (put : α → M)
    (holds : f.Holds get a) (merged : ∀ depth, merge depth start f = (get f).map put) :
    Merges merge start [f] 0 (put a) where
  writable := by simpa using holds.writable
  merged _ depth := by simp [merged, holds.held, within_zero]

/-- A nested message is merged as a whole. -/
theorem message {N : Type} {start : M} {delimited : Nat → Bool}
    {inner : Nat → N → Field → Option N} {seed result : N} {number levels : Nat}
    {fields : List Field} (put : N → M) (named : 0 < number ∧ 8 * number + 5 < UInt32.size)
    (merges : Merges inner seed fields levels result)
    (forced : ∀ f ∈ fields, delimited f.number = true → f.content.form = 2)
    (nested : ∀ depth, merge depth start (.ofMessage number fields) =
      (nest? delimited depth inner seed (.ofMessage number fields)).map put) :
    Merges merge start [.ofMessage number fields] (levels + 1) (put result) where
  writable := by simpa using ⟨named.1, named.2, trivial⟩
  merged short depth := by
    have shorter := length_message_lt number fields
    have single : writeAll [.ofMessage number fields] = (Field.ofMessage number fields).write := by
      simp [writeAll]
    rw [single] at short
    have whole := nest?_ofMessage delimited inner seed result number levels depth fields merges
      forced (by omega)
    by_cases enough : levels + 1 ≤ depth <;> simp [nested, whole, within, enough]

/-- A field that is left out where it holds what the message already has. -/
theorem unlessDefault {α : Type} [BEq α] [LawfulBEq α] {default a : α} {field : α → Field}
    {get : Field → Option α} (put : α → M) (holds : (field a).Holds get a)
    (merged : ∀ depth, merge depth (put default) (field a) = (get (field a)).map put) :
    Merges merge (put default) (Wire.unlessDefault default field a) 0 (put a) := by
  by_cases same : a = default
  · have none : Wire.unlessDefault default field a = [] := by simp [Wire.unlessDefault, same]
    rw [none, same]
    exact nil (put default)
  · have one : Wire.unlessDefault default field a = [field a] := by simp [Wire.unlessDefault, same]
    rw [one]
    exact scalar put holds merged

/-- A field that is left out where there is nothing. -/
theorem optional {α : Type} {start : M} {field : α → Field} {levels : α → Nat}
    (result : Option α → M) (a : Option α) (absent : start = result none)
    (merges : ∀ x, Merges merge start [field x] (levels x) (result (some x))) :
    Merges merge start (Wire.optional field a) (a.elim 0 levels) (result a) := by
  cases a with
  | none =>
    rw [← absent]
    exact nil start
  | some x => exact merges x

/-- Fields that are repeated, each of which adds to what the message holds so far. -/
theorem repeated {α β : Type} {field : α → Field} {levels : α → Nat} {element : α → β}
    (add : M → List β → M) (xs : List α) (addNone : ∀ m, add m [] = m)
    (addMore : ∀ m b bs, add (add m [b]) bs = add m (b :: bs))
    (merges : ∀ m, ∀ x ∈ xs, Merges merge m [field x] (levels x) (add m [element x])) (start : M) :
    Merges merge start (xs.map field) (deepest levels xs) (add start (xs.map element)) := by
  induction xs generalizing start with
  | nil =>
    rw [List.map_nil, List.map_nil, addNone]
    exact nil start
  | cons x rest inductionHypothesis =>
    have first := merges start x List.mem_cons_self
    have others := inductionHypothesis
      (fun m y member => merges m y (List.mem_cons_of_mem x member)) (add start [element x])
    rw [addMore] at others
    exact first.append others

/-- What is merged can be read from the bytes if nothing surrounds them. -/
theorem decode?_writeAll {start result : M} {fields : List Field} {levels : Nat}
    (merges : Merges merge start fields levels result)
    (short : (writeAll fields).length < UInt64.size) :
    decode? merge start (writeAll fields) = within levels depthLimit result := by
  have read := readAll?_writeAll noneForced depthLimit fields merges.writable
    (by simp [noneForced]) short
  simp only [decode?, read, Option.bind_eq_bind, Option.bind_some]
  exact merges.merged short depthLimit

end Merges

end LiveConfig.Wire
