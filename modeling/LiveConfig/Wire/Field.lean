import LiveConfig.Double
import LiveConfig.Wire.Varint

/-!
# Fields of a message

A message is a sequence of fields. A field has a number and a content; the low three bits of its
key say how the content is written: as a number, as eight bytes, as a byte string after its
length, as a group that runs to its end mark, or as four bytes.

Messages nest in byte strings. A reader carries the depth that is left: a nested message needs one
more level, and so does each field within a group. `readAll?_writeAll` says that fields that can be
written are read back in order.
-/

namespace LiveConfig.Wire

/-- What a field holds. -/
inductive Content where
  | number (n : Nat)
  | word (n : Nat)
  | delimited (bs : Bytes)
  /-- A content that no known field has: four bytes, or a group. It is read past. -/
  | other
deriving DecidableEq, Repr

/-- A numbered content. -/
structure Field where
  number : Nat
  content : Content
deriving DecidableEq, Repr

/-- The key of a field: its number, and how its content is written. -/
structure Key where
  number : Nat
  form : Nat
deriving DecidableEq, Repr

/-- The bytes of a key. -/
def Key.write (k : Key) : Bytes :=
  Varint.write (8 * k.number + k.form)

/-- Reads a key: a number of at most 32 bits whose form is known and whose field number is not
zero. -/
def Key.read? (bs : Bytes) : Option (Key × Bytes) := do
  let (key, rest) ← Varint.read? bs
  if key < UInt32.size ∧ key % 8 ≤ 5 ∧ 8 ≤ key then some (⟨key / 8, key % 8⟩, rest) else none

/-- Takes so many bytes off the front. -/
def takeBytes? (length : Nat) (bs : Bytes) : Option (Bytes × Bytes) :=
  if length ≤ bs.length then some (bs.splitAt length) else none

/-- Takes a length and so many bytes. -/
def takeDelimited? (bs : Bytes) : Option (Bytes × Bytes) := do
  let (length, rest) ← Varint.read? bs
  takeBytes? length rest

/-- Reads a content that is no group. -/
def Content.read? (form : Nat) (bs : Bytes) : Option (Content × Bytes) :=
  match form with
  | 0 => (Varint.read? bs).map fun (n, rest) => (.number n, rest)
  | 1 => (takeBytes? 8 bs).map fun (eight, rest) => (.word (Bytes.natOfLittleEndian eight), rest)
  | 2 => (takeDelimited? bs).map fun (bs, rest) => (.delimited bs, rest)
  | 5 => (takeBytes? 4 bs).map fun (_, rest) => (.other, rest)
  | _ => none

/-- The form of a group's first and last mark. -/
def groupStart : Nat := 3

/-- The form of a group's last mark. -/
def groupEnd : Nat := 4

/-- Reads past the end of the outermost of the open groups, given innermost first. Each end mark
closes the innermost group, and a field within the groups needs a level more than there are
groups. -/
def skipGroups? (depth : Nat) : Nat → List Nat → Bytes → Option Bytes
  | _, [], bs => some bs
  | 0, _ :: _, _ => none
  | fuel + 1, group :: outer, bs => do
    let (key, rest) ← Key.read? bs
    if key.form = groupEnd then
      if key.number = group then skipGroups? depth fuel outer rest else none
    else if depth ≤ outer.length + 1 then none
    else if key.form = groupStart then skipGroups? depth fuel (key.number :: group :: outer) rest
    else
      let (_, rest) ← Content.read? key.form rest
      skipGroups? depth fuel (group :: outer) rest

/-- Reads one field. The fields named by `delimited` are read as byte strings whatever their key
says. -/
def Field.read? (delimited : Nat → Bool) (depth : Nat) (bs : Bytes) : Option (Field × Bytes) := do
  let (key, rest) ← Key.read? bs
  let form := if delimited key.number then 2 else key.form
  if form = groupStart then
    let rest ← skipGroups? depth rest.length [key.number] rest
    some (⟨key.number, .other⟩, rest)
  else
    let (content, rest) ← Content.read? form rest
    some (⟨key.number, content⟩, rest)

/-- Reads at most so many fields, up to the end of the bytes. -/
def readFields? (delimited : Nat → Bool) (depth : Nat) : Nat → Bytes → Option (List Field)
  | _, [] => some []
  | 0, _ :: _ => none
  | fuel + 1, bs => do
    let (field, rest) ← Field.read? delimited depth bs
    let fields ← readFields? delimited depth fuel rest
    some (field :: fields)

/-- Reads all fields of a message; each takes at least one byte. -/
def readAll? (delimited : Nat → Bool) (depth : Nat) (bs : Bytes) : Option (List Field) :=
  readFields? delimited depth bs.length bs

/-- The bytes of a content after its key. -/
def Content.write : Content → Bytes
  | number n => Varint.write n
  | word n => Bytes.littleEndian 8 n
  | delimited bs => Varint.write bs.length ++ bs
  | other => []

/-- The form in which a content is written. -/
def Content.form : Content → Nat
  | number _ => 0
  | word _ => 1
  | delimited _ => 2
  | other => 5

/-- The bytes of a field. -/
def Field.write (f : Field) : Bytes :=
  Key.write ⟨f.number, f.content.form⟩ ++ f.content.write

/-- The bytes of a sequence of fields. -/
def writeAll (fields : List Field) : Bytes :=
  fields.flatMap Field.write

namespace Field

/-- A field that holds a signed 64-bit number. -/
def ofInt64 (number : Nat) (n : Int64) : Field :=
  ⟨number, .number n.toUInt64.toNat⟩

/-- A field that holds a signed 32-bit number; a negative one is written with 64 bits. -/
def ofInt32 (number : Nat) (n : Int32) : Field :=
  ofInt64 number n.toInt64

/-- A field that holds a truth value. -/
def ofBool (number : Nat) (b : Bool) : Field :=
  ⟨number, .number b.toNat⟩

/-- A field that holds a double. -/
def ofDouble (number : Nat) (x : Double) : Field :=
  ⟨number, .word x.bits.toNat⟩

/-- A field that holds a byte string. -/
def ofBytes (number : Nat) (bs : Bytes) : Field :=
  ⟨number, .delimited bs⟩

/-- A field that holds a text. -/
def ofText (number : Nat) (s : String) : Field :=
  ofBytes number (Bytes.ofText s)

/-- A field that holds a message. -/
def ofMessage (number : Nat) (fields : List Field) : Field :=
  ofBytes number (writeAll fields)

/-- The number that the field holds. -/
def number? (f : Field) : Option Nat :=
  match f.content with
  | .number n => some n
  | _ => none

/-- The signed 64-bit number that the field holds. -/
def int64? (f : Field) : Option Int64 :=
  f.number?.map fun n => (UInt64.ofNat n).toInt64

/-- The signed 32-bit number in the low bits that the field holds. -/
def int32? (f : Field) : Option Int32 :=
  f.number?.map fun n => (UInt32.ofNat n).toInt32

/-- The truth value that the field holds. -/
def bool? (f : Field) : Option Bool :=
  f.number?.map (· != 0)

/-- The double that the field holds. -/
def double? (f : Field) : Option Double :=
  match f.content with
  | .word n => some ⟨UInt64.ofNat n⟩
  | _ => none

/-- The byte string that the field holds. -/
def bytes? (f : Field) : Option Bytes :=
  match f.content with
  | .delimited bs => some bs
  | _ => none

/-- The text that the field holds. -/
def text? (f : Field) : Option String :=
  f.bytes?.bind Bytes.toText?

end Field

/-- An optional field. -/
def optional {α : Type} (field : α → Field) : Option α → List Field
  | none => []
  | some a => [field a]

/-- A field that is left out where it holds the default. -/
def unlessDefault {α : Type} [BEq α] (default : α) (field : α → Field) (a : α) : List Field :=
  if a == default then [] else [field a]

/-- Folds the fields of a nested message into it. The message must be a byte string and there must
be a level left for it. -/
def nest? {M : Type} (delimited : Nat → Bool) (depth : Nat) (merge : Nat → M → Field → Option M)
    (message : M) (f : Field) : Option M :=
  match depth with
  | 0 => none
  | depth + 1 => do
    let bs ← f.bytes?
    let fields ← readAll? delimited depth bs
    fields.foldlM (merge depth) message

/-- Reads past an unknown field, which needs a level too. -/
def pass? {M : Type} (depth : Nat) (message : M) : Option M :=
  if depth = 0 then none else some message

/-- No field is read as a byte string against its key. -/
def noneForced : Nat → Bool := fun _ => false

/-- The depth to which messages may nest. -/
def depthLimit : Nat := 100

/-- Reads the bytes of a message that nothing surrounds. -/
def decode? {M : Type} (merge : Nat → M → Field → Option M) (empty : M) (bs : Bytes) :
    Option M := do
  let fields ← readAll? noneForced depthLimit bs
  fields.foldlM (merge depthLimit) empty

end LiveConfig.Wire
