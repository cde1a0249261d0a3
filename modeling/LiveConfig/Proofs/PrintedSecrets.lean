import LiveConfig.Value.Text
import Mathlib.Data.List.Forall2

/-!
# Printed values tell markers only

Two values that are equal but for the payloads of confidential values in them, at the root or in
arms however deep, are printed alike as soon as the markers of these payloads are equal. Nothing
else of a confidential payload is told, not even whether it is a text or a split, and nothing less
either: the outlines of such values differ as soon as one marker does. All markers are equally long,
so a marker cannot be taken for the text that follows it.

A value under a confidential one is not printed, so it has no marker of its own. Equal means the
same here; two zeros of different signs count as equal in `Value.same`, but they are printed
differently.
-/

namespace LiveConfig

/-- Texts of equal length in front decide a concatenation apart. -/
theorem append_eq_iff (a b c d : String) (aligned : a.length = c.length) :
    a ++ b = c ++ d ↔ a = c ∧ b = d := by
  constructor
  · intro same
    have chars : a.toList ++ b.toList = c.toList ++ d.toList := by
      rw [← String.toList_append, ← String.toList_append, same]
    obtain ⟨front, back⟩ := List.append_inj chars
      (by rwa [String.length_toList, String.length_toList])
    exact ⟨String.toList_inj.mp front, String.toList_inj.mp back⟩
  · rintro ⟨rfl, rfl⟩
    rfl

/-- A way of writing a text that puts it between two fixed ones. -/
def Frames (write : String → String) : Prop :=
  ∃ before after, ∀ text, write text = before ++ text ++ after

/-- Framed texts are equal exactly if the texts in the frame are. -/
theorem Frames.eq_iff {write : String → String} (frames : Frames write) (a b : String) :
    write a = write b ↔ a = b := by
  obtain ⟨before, after, framed⟩ := frames
  rw [framed, framed, String.append_left_inj, String.append_right_inj]

/-- A frame is as long around any text. -/
theorem Frames.length_eq {write : String → String} (frames : Frames write) {a b : String}
    (aligned : a.length = b.length) : (write a).length = (write b).length := by
  obtain ⟨before, after, framed⟩ := frames
  simp only [framed, String.length_append, aligned]

/-- A frame in a frame is a frame. -/
theorem Frames.comp {outer inner : String → String} (outside : Frames outer)
    (inside : Frames inner) : Frames fun text => outer (inner text) := by
  obtain ⟨before, after, framed⟩ := outside
  obtain ⟨front, back, framed'⟩ := inside
  refine ⟨before ++ front, back ++ after, fun text => ?_⟩
  simp only [framed, framed', String.append_assoc]

/-- A list with separators frames each of its texts. -/
theorem frames_intercalate (separator : String) (before after : List String) :
    Frames fun text => separator.intercalate (before ++ text :: after) := by
  obtain ⟨back, first⟩ : ∃ back, ∀ text, separator.intercalate (text :: after) = text ++ back := by
    cases after with
    | nil => exact ⟨"", fun text => by simp⟩
    | cons next after =>
      refine ⟨separator ++ separator.intercalate (next :: after), fun text => ?_⟩
      rw [String.intercalate_cons_cons, String.append_assoc]
  cases before with
  | nil => exact ⟨"", back, fun text => by simp [first]⟩
  | cons head before =>
    refine ⟨separator.intercalate (head :: before) ++ separator, back, fun text => ?_⟩
    have joined := String.intercalate_append_of_ne_nil (s := separator)
      (List.cons_ne_nil head before) (List.cons_ne_nil text after)
    rw [first, ← String.append_assoc] at joined
    exact joined

/-- A record frames the text of each of its fields. -/
theorem frames_record (name field : String) (before after : List (String × String)) :
    Frames fun text => recordText name (before ++ (field, text) :: after) := by
  have named : Frames fun text => field ++ ": " ++ text :=
    ⟨field ++ ": ", "", fun text => by simp⟩
  have braces : Frames fun body => name ++ " \x7b " ++ body ++ " \x7d" :=
    ⟨name ++ " \x7b ", " \x7d", fun body => rfl⟩
  have listed (fields : List (String × String)) : recordText name fields =
      name ++ " \x7b " ++ ", ".intercalate (fields.map fun (entry : String × String) =>
        entry.1 ++ ": " ++ entry.2) ++ " \x7d" := rfl
  have framed := braces.comp ((frames_intercalate ", "
    (before.map fun entry => entry.1 ++ ": " ++ entry.2)
    (after.map fun entry => entry.1 ++ ": " ++ entry.2)).comp named)
  simpa only [listed, List.map_append, List.map_cons] using framed

/-- Lists of texts that are equally long one by one are written equally long. -/
theorem length_intercalate_eq (separator : String) (xs ys : List String)
    (aligned : List.Forall₂ (fun x y => x.length = y.length) xs ys) :
    (separator.intercalate xs).length = (separator.intercalate ys).length := by
  induction aligned with
  | nil => rfl
  | cons first rest inductionHypothesis =>
    cases rest with
    | nil => simpa using first
    | cons second rest =>
      rw [String.intercalate_cons_cons, String.intercalate_cons_cons]
      simp only [String.length_append, first, inductionHypothesis]

/-- Lists of texts that are equally long one by one are written alike only if they are equal. -/
theorem intercalate_eq_iff (separator : String) (xs ys : List String)
    (aligned : List.Forall₂ (fun x y => x.length = y.length) xs ys) :
    separator.intercalate xs = separator.intercalate ys ↔ xs = ys := by
  induction aligned with
  | nil => simp
  | cons first rest inductionHypothesis =>
    cases rest with
    | nil => simp
    | cons second rest =>
      rw [String.intercalate_cons_cons, String.intercalate_cons_cons,
        append_eq_iff _ _ _ _ (by simp only [String.length_append, first]),
        String.append_left_inj, inductionHypothesis]
      simp only [List.cons.injEq]

/-- Every redaction is ten characters long. -/
theorem redaction_width (raw : String) : (redaction raw).length = 10 := by
  have bytes (n : Nat) : (Bytes.bigEndian 4 n).length = 4 := by
    simp [Bytes.bigEndian]
  have digest : (Digest.Sha256.digest (Bytes.ofText raw)).length = 32 := by
    simp [Digest.Sha256.digest, bytes]
  have digits : (Hex.encode (Digest.Sha256.digest (Bytes.ofText raw))).toList.length = 64 := by
    rw [Hex.encode, String.toList_ofList, Hex.length_encodeBytes, digest]
  have stars : ("*****" : String).length = 5 := by decide
  rw [redaction, String.length_append, stars, String.length_ofList, List.length_take, digits]
  rfl

/-- A printable character other than a quote and a backslash is quoted as it is. -/
theorem quotedChar_printable (c : Char) (low : 0x20 ≤ c.toNat) (high : c.toNat < 0x7F)
    (quote : c ≠ '"') (backslash : c ≠ '\\') : Text.quotedChar c = [c] := by
  have ascii : c.toNat < 0x80 := Nat.lt_of_lt_of_le high (by decide)
  have shown : Text.isShown c = true := by
    simp only [Text.isShown, if_pos ascii, low, high, decide_true, Bool.and_true]
  unfold Text.quotedChar
  split
  case h_1 | h_2 | h_3 | h_4 => exact absurd low (by decide)
  case h_5 => contradiction
  case h_6 => contradiction
  case h_7 => exact if_pos shown

/-- The characters of a redaction are quoted as they are. -/
theorem quoted_redaction (raw : String) :
    Text.quoted (redaction raw) = "\"" ++ redaction raw ++ "\"" := by
  have every (c : Char) (member : c ∈ '*' :: Hex.digits) : Text.quotedChar c = [c] := by
    have printable : ('*' :: Hex.digits).all (fun c =>
        0x20 ≤ c.toNat ∧ c.toNat < 0x7F ∧ c ≠ '"' ∧ c ≠ '\\') = true := by decide
    obtain ⟨low, high, quote, backslash⟩ :=
      of_decide_eq_true (List.all_eq_true.mp printable c member)
    exact quotedChar_printable c low high quote backslash
  have plain (c : Char) (member : c ∈ (redaction raw).toList) : Text.quotedChar c = [c] := by
    rw [redaction, String.toList_append, List.mem_append] at member
    rcases member with star | digit
    · have only : c = '*' := by simpa using star
      exact every c (List.mem_cons.mpr (.inl only))
    · rw [String.toList_ofList] at digit
      exact every c (List.mem_cons_of_mem _ (Hex.mem_encode _ c (List.mem_of_mem_take digit)))
  have chars : (redaction raw).toList.flatMap Text.quotedChar = (redaction raw).toList := by
    rw [List.flatMap_congr plain, List.flatMap_singleton']
  apply String.toList_inj.mp
  rw [Text.quoted, chars, String.toList_ofList, String.toList_append, String.toList_append]
  rfl

mutual

/-- The markers printed for what is confidential in a payload, in order. -/
def Payload.markers : Payload → List String
  | .split ⟨arms, _⟩ => armsMarkers arms
  | _ => []
termination_by structural p => p

/-- The markers printed for what is confidential in a value: one if the value itself is. -/
def Value.markers : Value → List String
  | ⟨payload, confidential, _⟩ =>
    if confidential then [redaction payload.rawText] else payload.markers
termination_by structural v => v

/-- The markers printed for what is confidential in arms. -/
def armsMarkers : List (Arm Value) → List String
  | [] => []
  | ⟨_, value⟩ :: arms => value.markers ++ armsMarkers arms
termination_by structural arms => arms

end

mutual

/-- Payloads that are equal but for the payloads of confidential values in them. -/
inductive Payload.EqualButSecrets : Payload → Payload → Prop
  | same (p : Payload) : Payload.EqualButSecrets p p
  | split (arms others : List (Arm Value)) (hashBy : Option String)
      (nested : ArmsEqualButSecrets arms others) :
      Payload.EqualButSecrets (.split ⟨arms, hashBy⟩) (.split ⟨others, hashBy⟩)

/-- Values that are equal but for the payloads of confidential values in them. -/
inductive Value.EqualButSecrets : Value → Value → Prop
  | secret (p q : Payload) (decryptWith : Option String) :
      Value.EqualButSecrets ⟨p, true, decryptWith⟩ ⟨q, true, decryptWith⟩
  | plain (p q : Payload) (decryptWith : Option String) (nested : Payload.EqualButSecrets p q) :
      Value.EqualButSecrets ⟨p, false, decryptWith⟩ ⟨q, false, decryptWith⟩

/-- Arms that are equal but for the payloads of confidential values in them. -/
inductive ArmsEqualButSecrets : List (Arm Value) → List (Arm Value) → Prop
  | nil : ArmsEqualButSecrets [] []
  | cons (weight : Int32) (v w : Value) (arms others : List (Arm Value))
      (first : Value.EqualButSecrets v w) (rest : ArmsEqualButSecrets arms others) :
      ArmsEqualButSecrets (⟨weight, v⟩ :: arms) (⟨weight, w⟩ :: others)

end

/-- Two texts of the same length that are equal exactly if their markers are, of which there are
equally many. -/
structure TellMarkers (text other : String) (markers others : List String) : Prop where
  width : text.length = other.length
  count : markers.length = others.length
  exact : text = other ↔ markers = others

/-- Framing texts preserves what they tell. -/
theorem TellMarkers.framed {text other : String} {markers others : List String}
    (tell : TellMarkers text other markers others) {write : String → String}
    (frames : Frames write) : TellMarkers (write text) (write other) markers others where
  width := frames.length_eq tell.width
  count := tell.count
  exact := (frames.eq_iff text other).trans tell.exact

/-- A marker tells itself. -/
theorem TellMarkers.marker {text other : String} (width : text.length = other.length) :
    TellMarkers text other [text] [other] where
  width := width
  count := rfl
  exact := List.singleton_inj.symm

/-- The outline of a value frames the outline of its payload. -/
theorem frames_value (confidential : Bool) (decryptWith : Option String) :
    Frames fun payload => valueOutline payload confidential decryptWith :=
  frames_record "ConfigValue" "value" [] _

/-- The outlines of arms, taken one by one, tell the markers of the arms. -/
structure ArmsTell (arms others : List (Arm Value)) : Prop where
  aligned : List.Forall₂ (fun text other => text.length = other.length) (armsOutlined arms)
    (armsOutlined others)
  count : (armsMarkers arms).length = (armsMarkers others).length
  exact : armsOutlined arms = armsOutlined others ↔ armsMarkers arms = armsMarkers others

/-- No arms tell no markers. -/
theorem ArmsTell.nil : ArmsTell [] [] where
  aligned := .nil
  count := rfl
  exact := by simp

/-- One more arm tells the markers of its value first. -/
theorem ArmsTell.cons {arms others : List (Arm Value)} (rest : ArmsTell arms others)
    (weight : Int32) (v w : Value) (first : TellMarkers v.outlined w.outlined v.markers w.markers) :
    ArmsTell (⟨weight, v⟩ :: arms) (⟨weight, w⟩ :: others) := by
  have head := first.framed (frames_record "WeightedValue" "value"
    [("weight", Decimal.showInt weight.toInt)] [])
  refine ⟨?_, ?_, ?_⟩
  · rw [armsOutlined, armsOutlined]
    exact .cons head.width rest.aligned
  · rw [armsMarkers, armsMarkers, List.length_append, List.length_append, first.count, rest.count]
  · rw [armsOutlined, armsOutlined, armsMarkers, armsMarkers, List.cons.injEq]
    -- The markers of the first value end where those of the rest begin, since there are equally
    -- many of them in both values.
    constructor
    · rintro ⟨same, others⟩
      rw [head.exact.mp same, rest.exact.mp others]
    · intro same
      obtain ⟨front, back⟩ := List.append_inj same first.count
      exact ⟨head.exact.mpr front, rest.exact.mpr back⟩

/-- The outlines of splits tell the markers of their arms. -/
theorem ArmsTell.split {arms others : List (Arm Value)} (tell : ArmsTell arms others)
    (hashBy : Option String) : TellMarkers (Payload.outlined (.split ⟨arms, hashBy⟩))
      (Payload.outlined (.split ⟨others, hashBy⟩)) (armsMarkers arms) (armsMarkers others) := by
  have listed : TellMarkers (", ".intercalate (armsOutlined arms))
      (", ".intercalate (armsOutlined others)) (armsMarkers arms) (armsMarkers others) :=
    ⟨length_intercalate_eq ", " _ _ tell.aligned, tell.count,
      (intercalate_eq_iff ", " _ _ tell.aligned).trans tell.exact⟩
  have brackets : Frames fun items => "[" ++ items ++ "]" := ⟨"[", "]", fun _ => rfl⟩
  have named : Frames fun fields => "WeightedValues(" ++ fields ++ ")" :=
    ⟨"WeightedValues(", ")", fun _ => rfl⟩
  have framed := listed.framed (named.comp ((frames_record "WeightedValues" "values" []
    [("hash_by_property_name", optionalText Text.quoted hashBy)]).comp brackets))
  rw [Payload.outlined, Payload.outlined]
  exact framed

mutual

/-- The outlines of payloads that are equal but for secrets tell their markers. -/
theorem Payload.EqualButSecrets.tell {p q : Payload} : p.EqualButSecrets q →
    TellMarkers p.outlined q.outlined p.markers q.markers
  | .same p => ⟨rfl, rfl, by simp⟩
  | .split arms others hashBy nested => by
    rw [Payload.markers, Payload.markers]
    exact nested.tell.split hashBy

/-- The outlines of values that are equal but for secrets tell their markers. -/
theorem Value.EqualButSecrets.tell {v w : Value} : v.EqualButSecrets w →
    TellMarkers v.outlined w.outlined v.markers w.markers
  | .secret p q decryptWith => by
    -- Markers are quoted here. Escapes could change their widths, but no marker needs any.
    have quotes : Frames fun text => "\"" ++ text ++ "\"" := ⟨"\"", "\"", fun _ => rfl⟩
    have width := (redaction_width p.rawText).trans (redaction_width q.rawText).symm
    have framed := (TellMarkers.marker width).framed ((frames_value true decryptWith).comp quotes)
    simpa only [Value.outlined, Value.markers, if_true, quoted_redaction] using framed
  | .plain p q decryptWith nested => by
    simpa only [Value.outlined, Value.markers, Bool.false_eq_true, if_false] using
      nested.tell.framed (frames_value false decryptWith)

/-- The outlines of arms that are equal but for secrets tell their markers. -/
theorem ArmsEqualButSecrets.tell {arms others : List (Arm Value)} :
    ArmsEqualButSecrets arms others → ArmsTell arms others
  | .nil => .nil
  | .cons weight v w arms others first rest => rest.tell.cons weight v w first.tell

end

/-- Arms that are equal but for secrets are equally many. -/
theorem ArmsEqualButSecrets.length_eq {arms others : List (Arm Value)} :
    ArmsEqualButSecrets arms others → arms.length = others.length
  | .nil => rfl
  | .cons _ _ _ _ _ _ rest => congrArg Nat.succ rest.length_eq

/-- Payloads that are equal but for secrets have one raw text. -/
theorem Payload.EqualButSecrets.rawText_eq {p q : Payload} (equal : p.EqualButSecrets q) :
    p.rawText = q.rawText := by
  cases equal with
  | same => rfl
  | split arms others hashBy nested => rw [Payload.rawText, Payload.rawText, nested.length_eq]

/-- Printing tells of secrets their markers, and nothing else. Values that are equal but for secrets
have the same text and the same outline if their markers are equal. Where a marker differs, the
outlines differ, and so do the texts of values that are confidential as a whole. -/
theorem printing_tells_markers_only (v w : Value) (equal : v.EqualButSecrets w) :
    (v.markers = w.markers → v.shown = w.shown ∧ v.outlined = w.outlined) ∧
    (v.outlined = w.outlined → v.markers = w.markers) ∧
    (v.confidential = true → v.shown = w.shown → v.markers = w.markers) := by
  refine ⟨fun markers => ⟨?_, equal.tell.exact.mpr markers⟩, equal.tell.exact.mp, ?_⟩
  · cases equal with
    | secret p q decryptWith =>
      simpa only [Value.markers, Value.shown, Value.rawText, if_true, List.singleton_inj]
        using markers
    | plain p q decryptWith nested => exact nested.rawText_eq
  · intro confidential shown
    cases equal with
    | secret p q decryptWith =>
      simpa only [Value.markers, Value.shown, Value.rawText, if_true, List.singleton_inj]
        using shown
    | plain p q decryptWith nested => contradiction

/-- A split with one secret in its first arm and one in a split in its second arm. -/
def secretArms (p q : Payload) : Value where
  payload := .split {
    arms := [⟨1, { payload := p, confidential := true }⟩,
      ⟨2, { payload := .split { arms := [⟨1, { payload := q, confidential := true }⟩] } }⟩]
    hashBy := some "user.key" }

/-- The texts of a list and a text that reads like the list are printed alike when they are secret,
and so are a text and a duration in an arm of an arm. -/
theorem nested_secrets_printed_alike :
    let v := secretArms (.texts ["sea", "salt"]) (.duration "PT1S")
    let w := secretArms (.text "[sea salt]") (.text "PT1S")
    v.EqualButSecrets w ∧ v.shown = w.shown ∧ v.outlined = w.outlined := by
  intro v w
  have inner : Payload.EqualButSecrets _ _ :=
    .split _ _ none (.cons 1 _ _ [] [] (.secret (.duration "PT1S") (.text "PT1S") none) .nil)
  have equal : v.EqualButSecrets w :=
    .plain _ _ none (.split _ _ (some "user.key")
      (.cons 1 _ _ _ _ (.secret (.texts ["sea", "salt"]) (.text "[sea salt]") none)
        (.cons 2 _ _ _ _ (.plain _ _ none inner) .nil)))
  have listed :
      Payload.rawText (.texts ["sea", "salt"]) = Payload.rawText (.text "[sea salt]") := by
    decide
  have lasting : Payload.rawText (.duration "PT1S") = Payload.rawText (.text "PT1S") := rfl
  have markers : v.markers = w.markers := by
    simp only [v, w, secretArms, Value.markers, Payload.markers, armsMarkers, Bool.false_eq_true,
      if_true, if_false, listed, lasting]
  exact ⟨equal, (printing_tells_markers_only v w equal).1 markers⟩

end LiveConfig
