import LiveConfig.Proofs.MessageFields
import LiveConfig.Proofs.WellFormedValues
import LiveConfig.Wire.ValueMessage

/-!
# Values are read back

The fields of a value, merged in turn, give a message that holds what the value holds, and a
well-formed value is made of that message again. Both are shown along the value: a split nests its
arms and each arm its value, which takes two levels for every split.
-/

namespace LiveConfig

mutual

/-- The levels of messages that nest in a payload's field. -/
def Payload.nesting : Payload → Nat
  | .split ⟨arms, _⟩ => armsNesting arms + 1
  | .texts _ | .range _ | .provided _ | .json _ | .duration _ => 1
  | .int _ | .double _ | .bool _ | .text _ | .bytes _ | .logLevel _ => 0
termination_by structural p => p

/-- The levels of messages that nest in the message of a value. -/
def Value.nesting : Value → Nat
  | ⟨payload, _, _⟩ => payload.nesting
termination_by structural v => v

/-- The levels of messages that nest in the message of a split: each arm is one, and so is its
value. -/
def armsNesting : List (Arm Value) → Nat
  | [] => 0
  | ⟨_, value⟩ :: arms => max (value.nesting + 2) (armsNesting arms)
termination_by structural arms => arms

end

namespace Wire

mutual

/-- The content of a payload as it stands on the wire. -/
def payloadContent : Payload → ValueContent
  | .int n => .int n
  | .text s => .text s
  | .bytes bs => .bytes bs
  | .double x => .double x
  | .bool b => .bool b
  | .split ⟨arms, hashBy⟩ => .split ⟨armMessages arms, hashBy⟩
  | .logLevel level => .logLevel (levelNumber level)
  | .texts list => .texts list
  | .range r => .range r
  | .provided p => .provided (some (originNumber p.origin)) (some p.name)
  | .json document => .json document
  | .duration definition => .duration definition
termination_by structural p => p

/-- The message of a value. A mark that is not set is missing. -/
def valueMessage : Value → ValueMessage
  | ⟨payload, confidential, decryptWith⟩ =>
    { content := some (payloadContent payload)
      confidential := if confidential then some true else none
      decryptWith }
termination_by structural v => v

/-- The messages of the arms of a split. -/
def armMessages : List (Arm Value) → List (Arm (Option ValueMessage))
  | [] => []
  | ⟨weight, value⟩ :: arms => ⟨weight, some (valueMessage value)⟩ :: armMessages arms
termination_by structural arms => arms

end

/-- A field that holds no split is merged as such. -/
theorem ValueMessage.merge?_leaf (depth : Nat) (v : ValueMessage) (f : Field)
    (noSplit : (f.number == 6) = false) : v.merge? depth f = v.mergeLeaf? depth f := by
  rw [merge?.eq_def, if_neg (beq_eq_false_iff_ne.mp noSplit)]

/-- A split is a nested message. -/
theorem ValueMessage.merge?_split (depth : Nat) (v : ValueMessage) (f : Field)
    (split : f.number = 6) : v.merge? depth f =
      (nest? noneForced depth mergeSplit? (ValueContent.splitSoFar v.content) f).map fun s =>
        { v with content := some (.split s) } := by
  rw [merge?.eq_def, if_pos split]
  cases depth with
  | zero => rfl
  | succ depth =>
    simp only [nest?, Option.map_eq_bind, Option.bind_eq_bind, Option.bind_assoc,
      Function.comp_def]

/-- An arm is a nested message of its split. -/
theorem mergeSplit?_arm (depth : Nat) (s : Split (Option ValueMessage)) (f : Field)
    (arm : f.number = 1) : mergeSplit? depth s f =
      (nest? noneForced depth mergeArm? ⟨0, none⟩ f).map fun arm =>
        { s with arms := s.arms ++ [arm] } := by
  rw [mergeSplit?.eq_def, arm]
  cases depth with
  | zero => rfl
  | succ depth =>
    simp only [nest?, Option.map_eq_bind, Option.bind_eq_bind, Option.bind_assoc,
      Function.comp_def]

/-- The value of an arm is a nested message of it. -/
theorem mergeArm?_value (depth : Nat) (arm : Arm (Option ValueMessage)) (f : Field)
    (value : f.number = 2) : mergeArm? depth arm f =
      (nest? noneForced depth ValueMessage.merge? (arm.value.getD {}) f).map fun v =>
        { arm with value := some v } := by
  rw [mergeArm?.eq_def, value]
  cases depth with
  | zero => rfl
  | succ depth =>
    simp only [nest?, Option.map_eq_bind, Option.bind_eq_bind, Option.bind_assoc,
      Function.comp_def]

/-- A list of texts is read back. -/
theorem texts_merge (list : List String) : Merges mergeTexts? [] (list.map (.ofText 1)) 0 list := by
  have each (held : List String) (s : String) (_ : s ∈ list) :
      Merges mergeTexts? held [.ofText 1 s] 0 (held ++ [s]) :=
    .scalar (fun s => held ++ [s]) (Field.ofText_holds 1 (by decide) s) fun _ => rfl
  have merges := Merges.repeated (fun held more => held ++ more) list (fun held => held.append_nil)
    (fun held s more => List.append_assoc held [s] more) each []
  simpa using merges.leveled (deepest_zero list)

/-- A range is read back. -/
theorem range_merges (r : IntRange) : Merges mergeRange? {}
    (optional (.ofInt64 1) r.lower ++ optional (.ofInt64 2) r.upper) 0 r := by
  have lower (n : Int64) : Merges mergeRange? {} [.ofInt64 1 n] 0 ⟨some n, none⟩ :=
    .scalar (fun n => IntRange.mk (some n) none) (Field.ofInt64_holds 1 (by decide) n)
      fun _ => rfl
  have upper (n : Int64) :
      Merges mergeRange? ⟨r.lower, none⟩ [.ofInt64 2 n] 0 ⟨r.lower, some n⟩ :=
    .scalar (fun n => IntRange.mk r.lower (some n)) (Field.ofInt64_holds 2 (by decide) n)
      fun _ => rfl
  have merges := (Merges.optional (fun n => IntRange.mk n none) r.lower rfl lower).append
    (Merges.optional (fun n => IntRange.mk r.lower n) r.upper rfl upper)
  exact merges.leveled (by cases r.lower <;> cases r.upper <;> rfl)

/-- The source and the name of a provided value are read back. -/
theorem provided_merges (p : Provided) : Merges mergeProvided? (none, none)
    [.ofInt32 1 (originNumber p.origin), .ofText 2 p.name] 0
    (some (originNumber p.origin), some p.name) := by
  have source : Merges mergeProvided? (none, none) [.ofInt32 1 (originNumber p.origin)] 0
      (some (originNumber p.origin), none) :=
    .scalar (fun n => (some n, none)) (Field.ofInt32_holds 1 (by decide) _) fun _ => rfl
  have name : Merges mergeProvided? (some (originNumber p.origin), none) [.ofText 2 p.name] 0
      (some (originNumber p.origin), some p.name) :=
    .scalar (fun s => (some (originNumber p.origin), some s))
      (Field.ofText_holds 2 (by decide) p.name) fun _ => rfl
  exact source.append name

/-- A text in a message of its own is read back. -/
theorem document_merges (s : String) :
    Merges mergeText? "" (unlessDefault "" (.ofText 1) s) 0 s :=
  .unlessDefault (fun s => s) (Field.ofText_holds 1 (by decide) s) fun _ => by
    rw [Option.map_id']
    rfl

/-- A payload of one field is read back from it. -/
theorem leaf_merges {α : Type} {f : Field} {get : Field → Option α} {a : α}
    (content : α → ValueContent) (noSplit : (f.number == 6) = false) (holds : f.Holds get a)
    (merged : ∀ depth, ValueMessage.mergeLeaf? depth {} f =
      (get f).map fun a => { content := some (content a) }) :
    Merges ValueMessage.merge? {} [f] 0 { content := some (content a) } :=
  .scalar (fun a => ValueMessage.mk (some (content a)) none none) holds fun depth =>
    (ValueMessage.merge?_leaf depth {} f noSplit).trans (merged depth)

/-- A payload that is a message is read back from its fields. -/
theorem nested_merges {N : Type} {inner : Nat → N → Field → Option N} {seed result : N}
    {levels : Nat} {fields : List Field} (number : Nat) (content : N → ValueContent)
    (named : 0 < number ∧ 8 * number + 5 < UInt32.size)
    (merges : Merges inner seed fields levels result)
    (merged : ∀ depth, ValueMessage.merge? depth {} (.ofMessage number fields) =
      (nest? noneForced depth inner seed (.ofMessage number fields)).map fun n =>
        { content := some (content n) }) :
    Merges ValueMessage.merge? {} [.ofMessage number fields] (levels + 1)
      { content := some (content result) } :=
  .message (fun n => ValueMessage.mk (some (content n)) none none) named merges
    (by simp [noneForced]) merged

/-- The marks of a value are read back. One that is not set is not written. -/
theorem marks_merge (content : ValueContent) (confidential : Bool) (decryptWith : Option String) :
    Merges ValueMessage.merge? { content := some content }
      ((if confidential then [.ofBool 13 true] else []) ++ optional (.ofText 14) decryptWith) 0
      ⟨some content, if confidential then some true else none, decryptWith⟩ := by
  have shown : Merges ValueMessage.merge? { content := some content }
      (if confidential then [.ofBool 13 true] else []) 0
      ⟨some content, if confidential then some true else none, none⟩ := by
    cases confidential with
    | false => exact .nil _
    | true =>
      exact .scalar (fun b => ValueMessage.mk (some content) (some b) none)
        (Field.ofBool_holds 13 (by decide) true) fun depth => ValueMessage.merge?_leaf depth _ _ rfl
  have sealed (key : String) : Merges ValueMessage.merge?
      ⟨some content, if confidential then some true else none, none⟩ [.ofText 14 key] 0
      ⟨some content, if confidential then some true else none, some key⟩ :=
    .scalar (fun key => ValueMessage.mk _ _ (some key)) (Field.ofText_holds 14 (by decide) key)
      fun depth => ValueMessage.merge?_leaf depth _ _ rfl
  have marks := shown.append
    (.optional (fun key => ValueMessage.mk _ _ key) decryptWith rfl sealed)
  exact marks.leveled (by cases decryptWith <;> rfl)

mutual

/-- A payload is read back from its field. -/
theorem payload_merges : (p : Payload) → Merges ValueMessage.merge? {} [payloadField p] p.nesting
    { content := some (payloadContent p) }
  | .int n => leaf_merges .int rfl (Field.ofInt64_holds 1 (by decide) n) fun _ => rfl
  | .text s => leaf_merges .text rfl (Field.ofText_holds 2 (by decide) s) fun _ => rfl
  | .bytes bs => leaf_merges .bytes rfl (Field.ofBytes_holds 3 (by decide) bs) fun _ => rfl
  | .double x => leaf_merges .double rfl (Field.ofDouble_holds 4 (by decide) x) fun _ => rfl
  | .bool b => leaf_merges .bool rfl (Field.ofBool_holds 5 (by decide) b) fun _ => rfl
  | .logLevel level => leaf_merges .logLevel rfl
      (Field.ofInt32_holds 9 (by decide) (levelNumber level)) fun _ => rfl
  | .texts list => nested_merges 10 .texts (by decide) (texts_merge list) fun depth =>
      ValueMessage.merge?_leaf depth {} _ rfl
  | .range r => nested_merges 11 .range (by decide) (range_merges r) fun depth =>
      ValueMessage.merge?_leaf depth {} _ rfl
  | .provided p => nested_merges 12
      (fun (p : Option Int32 × Option String) => .provided p.1 p.2) (by decide)
      (provided_merges p) fun depth => ValueMessage.merge?_leaf depth {} _ rfl
  | .json document => nested_merges 15 .json (by decide) (document_merges document) fun depth =>
      ValueMessage.merge?_leaf depth {} _ rfl
  | .duration definition => nested_merges 16 .duration (by decide) (document_merges definition)
      fun depth => ValueMessage.merge?_leaf depth {} _ rfl
  | .split ⟨arms, hashBy⟩ => by
    have property (s : String) : Merges mergeSplit? ⟨armMessages arms, none⟩ [.ofText 2 s] 0
        ⟨armMessages arms, some s⟩ :=
      .scalar (fun s => Split.mk (armMessages arms) (some s)) (Field.ofText_holds 2 (by decide) s)
        fun depth => by
          rw [mergeSplit?.eq_def]
          rfl
    have optional := Merges.optional (fun s => Split.mk (armMessages arms) s) hashBy rfl property
    have fields := (arms_merge arms { arms := [] }).append optional
    have nested := nested_merges 6 .split (by decide) fields fun depth =>
      ValueMessage.merge?_split depth {} _ rfl
    rw [payloadField, payloadContent, Payload.nesting]
    exact nested.leveled (by cases hashBy <;> simp)
termination_by structural p => p

/-- A value is read back from its fields. -/
theorem value_merges : (v : Value) →
    Merges ValueMessage.merge? {} (valueFields v) v.nesting (valueMessage v)
  | ⟨payload, confidential, decryptWith⟩ => by
    have all := (payload_merges payload).append
      (marks_merge (payloadContent payload) confidential decryptWith)
    rw [valueFields, valueMessage, Value.nesting]
    exact all.leveled (Nat.max_zero _)
termination_by structural v => v

/-- The arms of a split are read back from their fields, after those that are there. -/
theorem arms_merge : (arms : List (Arm Value)) → (s : Split (Option ValueMessage)) →
    Merges mergeSplit? s (armFields arms) (armsNesting arms)
      { s with arms := s.arms ++ armMessages arms }
  | [], s => by
    rw [armFields, armsNesting, armMessages, List.append_nil]
    exact .nil s
  | ⟨weight, value⟩ :: arms, s => by
    have share : Merges mergeArm? ⟨0, none⟩ (unlessDefault 0 (.ofInt32 1) weight) 0
        ⟨weight, none⟩ :=
      .unlessDefault (fun weight => Arm.mk weight none) (Field.ofInt32_holds 1 (by decide) weight)
        fun depth => by
          rw [mergeArm?.eq_def]
          rfl
    have held : Merges mergeArm? ⟨weight, none⟩ [.ofMessage 2 (valueFields value)]
        (value.nesting + 1) ⟨weight, some (valueMessage value)⟩ :=
      .message (fun v => Arm.mk weight (some v)) (by decide) (value_merges value)
        (by simp [noneForced]) fun depth => mergeArm?_value depth _ _ rfl
    have first : Merges mergeSplit? s
        [.ofMessage 1 (unlessDefault 0 (.ofInt32 1) weight ++ [.ofMessage 2 (valueFields value)])]
        (max 0 (value.nesting + 1) + 1)
        { s with arms := s.arms ++ [⟨weight, some (valueMessage value)⟩] } :=
      .message (fun arm => { s with arms := s.arms ++ [arm] }) (by decide) (share.append held)
        (by simp [noneForced]) fun depth => mergeSplit?_arm depth s _ rfl
    have all := first.append (arms_merge arms _)
    rw [List.append_assoc] at all
    rw [armFields, armsNesting, armMessages]
    exact all.leveled (by simp)
termination_by structural arms => arms

end

/-- The numbers of the levels tell them apart. -/
theorem levelOfNumber?_levelNumber (level : LogLevel) :
    levelOfNumber? (levelNumber level) = some level := by
  cases level <;> rfl

/-- A split that can decide passes the check. -/
theorem checkedSplit_sound (s : Split Value) (sound : s.Sound) : checkedSplit s = .ok s := by
  rw [checkedSplit, s.fault_none_iff.mpr sound]

mutual

/-- A well-formed payload is made of its content again. -/
theorem toPayload_payloadContent : (p : Payload) → p.WellFormed →
    (payloadContent p).toPayload = .ok p
  | .split ⟨arms, hashBy⟩, wellFormed => by
    obtain ⟨sound, each⟩ := wellFormed _ rfl
    rw [payloadContent, ValueContent.toPayload, armsOfMessages_armMessages arms each]
    exact congrArg (Except.map Payload.split) (checkedSplit_sound ⟨arms, hashBy⟩ sound)
  | .logLevel level, _ => by
    rw [payloadContent, ValueContent.toPayload, levelOfNumber?_levelNumber]
  | .provided ⟨origin, name⟩, _ => by cases origin <;> rfl
  | .int _, _ | .text _, _ | .bytes _, _ | .double _, _ | .bool _, _ | .texts _, _ | .range _, _
  | .json _, _ | .duration _, _ => rfl
termination_by structural p => p

/-- A well-formed value is made of its message again. -/
theorem toValue_valueMessage : (v : Value) → v.WellFormed → (valueMessage v).toValue = .ok v
  | ⟨payload, confidential, decryptWith⟩, .intro mark sound arms => by
    have content := toPayload_payloadContent payload fun s split => ⟨sound s split, arms s split⟩
    have named : decryptWith.filter (· ≠ "") = decryptWith := by
      cases decryptWith with
      | none => rfl
      | some key => simpa using mark
    have shown : (if confidential then some true else none).getD false = confidential := by
      cases confidential <;> rfl
    simp only [valueMessage, ValueMessage.toValue, content, named, shown]
    rfl
termination_by structural v => v

/-- The well-formed arms of a split are made of their messages again. -/
theorem armsOfMessages_armMessages : (arms : List (Arm Value)) →
    (∀ arm ∈ arms, arm.value.WellFormed) → armsOfMessages (armMessages arms) = .ok arms
  | [], _ => rfl
  | ⟨weight, value⟩ :: arms, wellFormed => by
    obtain ⟨first, others⟩ := List.forall_mem_cons.mp wellFormed
    rw [armMessages, armsOfMessages, toValue_valueMessage value first]
    simp only [armsOfMessages_armMessages arms others]
    rfl
termination_by structural arms => arms

end

end Wire

end LiveConfig
