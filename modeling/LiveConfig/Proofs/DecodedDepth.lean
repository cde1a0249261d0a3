import LiveConfig.Proofs.DecodedValues
import LiveConfig.Proofs.ValueEncoding

/-!
# What has been read can be read again

A reader with so many levels left accepts only messages that nest no deeper: each nested message
takes a level, and what is merged into an earlier message nests within the same levels. Making a
value of a message changes none of this. A value that was read is therefore well-formed and shallow,
so its own bytes are read back as the same value, although they need not be the bytes it came from.

A redacted value is a short text and always read back.
-/

namespace LiveConfig

namespace Wire

mutual

/-- The levels of messages that nest in a content. -/
def ValueContent.nesting : ValueContent → Nat
  | .split ⟨arms, _⟩ => armsDepth arms + 1
  | .texts _ | .range _ | .provided _ _ | .json _ | .duration _ => 1
  | .int _ | .double _ | .bool _ | .text _ | .bytes _ | .logLevel _ => 0
termination_by structural c => c

/-- The levels of messages that nest in the message of a value. -/
def ValueMessage.nesting : ValueMessage → Nat
  | ⟨none, _, _⟩ => 0
  | ⟨some content, _, _⟩ => content.nesting
termination_by structural v => v

/-- The levels of messages that nest in the message of a split. -/
def armsDepth : List (Arm (Option ValueMessage)) → Nat
  | [] => 0
  | ⟨_, none⟩ :: arms => max 1 (armsDepth arms)
  | ⟨_, some v⟩ :: arms => max (v.nesting + 2) (armsDepth arms)
termination_by structural arms => arms

end

/-- The levels of messages that nest in the message of an arm. -/
def armDepth (arm : Arm (Option ValueMessage)) : Nat :=
  match arm.value with
  | none => 0
  | some v => v.nesting + 1

/-- One more arm needs a level for itself. -/
theorem armsDepth_append (arms : List (Arm (Option ValueMessage)))
    (arm : Arm (Option ValueMessage)) :
    armsDepth (arms ++ [arm]) = max (armsDepth arms) (armDepth arm + 1) := by
  induction arms with
  | nil =>
    obtain ⟨weight, value⟩ := arm
    cases value <;> simp [armsDepth, armDepth]
  | cons first arms inductionHypothesis =>
    obtain ⟨weight, value⟩ := first
    cases value <;> simp [armsDepth, inductionHypothesis, Nat.max_assoc]

/-- What each step keeps, all steps keep. -/
theorem foldlM_keeps {α β : Type} (P : β → Prop) (step : β → α → Option β) (xs : List α)
    (start result : β) (keeps : ∀ b x next, P b → step b x = some next → P next) (holds : P start)
    (done : xs.foldlM step start = some result) : P result := by
  induction xs generalizing start with
  | nil =>
    obtain rfl := Option.some.inj done
    exact holds
  | cons x xs inductionHypothesis =>
    rw [List.foldlM_cons] at done
    obtain ⟨next, here, later⟩ := Option.bind_eq_some_iff.mp done
    exact inductionHypothesis next (keeps start x next holds here) later

/-- A nested message is merged a level deeper. What its fields keep there holds of the result. -/
theorem nest?_keeps {M : Type} (P : M → Prop) (depth : Nat) (merge : Nat → M → Field → Option M)
    (start result : M) (f : Field) (merged : nest? noneForced depth merge start f = some result)
    (holds : P start)
    (keeps : ∀ d m f next, d + 1 = depth → P m → merge d m f = some next → P next) :
    0 < depth ∧ P result := by
  cases depth with
  | zero => contradiction
  | succ d =>
    obtain ⟨bs, -, later⟩ := Option.bind_eq_some_iff.mp merged
    obtain ⟨fields, -, all⟩ := Option.bind_eq_some_iff.mp later
    exact ⟨Nat.succ_pos d,
      foldlM_keeps P (merge d) fields start result (fun m f next => keeps d m f next rfl) holds all⟩

/-- What is passed over changes nothing. -/
theorem pass?_some {M : Type} (depth : Nat) (message result : M)
    (passed : pass? depth message = some result) : result = message := by
  unfold pass? at passed
  split at passed
  · contradiction
  · exact (Option.some.inj passed).symm

/-- A nested message of a value that holds no further message needs one level. -/
theorem nested_leaf_nesting {M : Type} (depth : Nat) (merge : Nat → M → Field → Option M)
    (start : M) (f : Field) (put : M → ValueMessage) (v : ValueMessage)
    (merged : (nest? noneForced depth merge start f).map put = some v)
    (level : ∀ m, (put m).nesting = 1) : v.nesting ≤ depth := by
  obtain ⟨m, nested, rfl⟩ := Option.map_eq_some_iff.mp merged
  obtain ⟨positive, -⟩ := nest?_keeps (fun _ => True) depth merge start m f nested trivial
    fun _ _ _ _ _ _ _ => trivial
  rw [level]
  exact positive

/-- A field that holds no message needs no level. -/
theorem scalar_nesting {α : Type} (depth : Nat) (read : Option α) (put : α → ValueMessage)
    (v : ValueMessage) (merged : read.map put = some v) (level : ∀ a, (put a).nesting ≤ depth) :
    v.nesting ≤ depth := by
  obtain ⟨a, -, rfl⟩ := Option.map_eq_some_iff.mp merged
  exact level a

/-- Merging a field that holds no split keeps within the levels. -/
theorem ValueMessage.mergeLeaf?_nesting (depth : Nat) (v merged : ValueMessage) (f : Field)
    (shallow : v.nesting ≤ depth) (done : v.mergeLeaf? depth f = some merged) :
    merged.nesting ≤ depth := by
  have marked (confidential : Option Bool) (decryptWith : Option String) :
      ValueMessage.nesting ⟨v.content, confidential, decryptWith⟩ ≤ depth := by
    obtain ⟨content, _, _⟩ := v
    cases content <;> exact shallow
  unfold mergeLeaf? at done
  split at done
  case h_10 => exact scalar_nesting depth _ _ merged done fun _ => marked _ _
  case h_11 => exact scalar_nesting depth _ _ merged done fun _ => marked _ _
  case h_14 =>
    rw [pass?_some depth v merged done]
    exact shallow
  case h_7 | h_8 | h_9 | h_12 | h_13 =>
    exact nested_leaf_nesting depth _ _ _ _ merged done fun _ => rfl
  all_goals exact scalar_nesting depth _ _ merged done fun _ => Nat.zero_le depth

/-- Merging with so many levels left keeps within them. -/
structure KeepsWithin (depth : Nat) : Prop where
  value : ∀ v f merged, v.nesting ≤ depth → ValueMessage.merge? depth v f = some merged →
    merged.nesting ≤ depth
  split : ∀ s f merged, armsDepth s.arms ≤ depth → mergeSplit? depth s f = some merged →
    armsDepth merged.arms ≤ depth
  arm : ∀ arm f merged, armDepth arm ≤ depth → mergeArm? depth arm f = some merged →
    armDepth merged ≤ depth

/-- The split to merge into nests one level less than the content that holds it. -/
theorem splitSoFar_depth (v : ValueMessage) :
    armsDepth (ValueContent.splitSoFar v.content).arms ≤ v.nesting - 1 := by
  obtain ⟨content, confidential, decryptWith⟩ := v
  cases content with
  | none => simp [ValueContent.splitSoFar, armsDepth]
  | some content =>
    cases content with
    | split s =>
      obtain ⟨arms, hashBy⟩ := s
      simp [ValueContent.splitSoFar, ValueMessage.nesting, ValueContent.nesting]
    | _ => simp [ValueContent.splitSoFar, armsDepth]

/-- Merging keeps within the levels that are left. What nests is merged with one level less. -/
theorem keeps_within (depth : Nat) : KeepsWithin depth := by
  induction depth using Nat.strong_induction_on with
  | h depth inductionHypothesis =>
    have within (d : Nat) (deeper : d + 1 = depth) : KeepsWithin d :=
      inductionHypothesis d (by omega)
    refine ⟨fun v f merged shallow done => ?_, fun s f merged shallow done => ?_,
      fun arm f merged shallow done => ?_⟩
    · by_cases split : f.number = 6
      · rw [ValueMessage.merge?_split depth v f split] at done
        obtain ⟨s, nested, rfl⟩ := Option.map_eq_some_iff.mp done
        have start := splitSoFar_depth v
        -- The split may be merged into an earlier one, so its start is bounded as well.
        obtain ⟨positive, kept⟩ := nest?_keeps (fun s => armsDepth s.arms ≤ depth - 1) depth _ _ _ f
          nested (by omega) fun d s f next deeper here step => by
            have kept := (within d deeper).split s f next (by omega) step
            omega
        simp only [ValueMessage.nesting, ValueContent.nesting]
        omega
      · rw [ValueMessage.merge?_leaf depth v f (by simpa using split)] at done
        exact v.mergeLeaf?_nesting depth merged f shallow done
    · by_cases isArm : f.number = 1
      · rw [mergeSplit?_arm depth s f isArm] at done
        obtain ⟨arm, nested, rfl⟩ := Option.map_eq_some_iff.mp done
        obtain ⟨positive, kept⟩ := nest?_keeps (fun arm => armDepth arm ≤ depth - 1) depth _ _ _ f
          nested (Nat.zero_le _) fun d arm f next deeper here step => by
            have kept := (within d deeper).arm arm f next (by omega) step
            omega
        rw [armsDepth_append]
        omega
      · rw [mergeSplit?.eq_def] at done
        split at done
        · contradiction
        · obtain ⟨property, -, rfl⟩ := Option.map_eq_some_iff.mp done
          exact shallow
        · rw [pass?_some depth s merged done]
          exact shallow
    · by_cases isValue : f.number = 2
      · rw [mergeArm?_value depth arm f isValue] at done
        obtain ⟨v, nested, rfl⟩ := Option.map_eq_some_iff.mp done
        have start : (arm.value.getD {}).nesting ≤ depth - 1 := by
          obtain ⟨weight, value⟩ := arm
          cases value with
          | none => exact Nat.zero_le _
          | some v =>
            simp only [armDepth] at shallow
            simp only [Option.getD_some]
            omega
        obtain ⟨positive, kept⟩ := nest?_keeps (fun v => v.nesting ≤ depth - 1) depth _ _ _ f
          nested start fun d v f next deeper here step => by
            have kept := (within d deeper).value v f next (by omega) step
            omega
        simp only [armDepth]
        omega
      · rw [mergeArm?.eq_def] at done
        split at done
        · obtain ⟨weight, -, rfl⟩ := Option.map_eq_some_iff.mp done
          exact shallow
        · contradiction
        · rw [pass?_some depth arm merged done]
          exact shallow

mutual

/-- A payload nests as deep as its content. -/
theorem toPayload_nesting : (c : ValueContent) → (p : Payload) → c.toPayload = .ok p →
    p.nesting = c.nesting
  | .split ⟨arms, hashBy⟩, p, converted => by
    rw [ValueContent.toPayload, Outcome.bind_ok_iff] at converted
    obtain ⟨read, here, later⟩ := converted
    obtain ⟨checked, passed, same⟩ := (Outcome.bind_ok_iff ..).mp later
    obtain rfl := Except.ok.inj same
    unfold checkedSplit at passed
    split at passed
    · obtain rfl := Except.ok.inj passed
      rw [Payload.nesting, ValueContent.nesting, armsOfMessages_nesting arms read here]
    · contradiction
  | .logLevel number, p, converted => by
    rw [ValueContent.toPayload] at converted
    split at converted
    · obtain rfl := Except.ok.inj converted
      rfl
    · contradiction
  | .int _, p, converted | .text _, p, converted | .bytes _, p, converted
  | .double _, p, converted | .bool _, p, converted | .texts _, p, converted
  | .range _, p, converted | .provided _ _, p, converted | .json _, p, converted
  | .duration _, p, converted => by
    rw [ValueContent.toPayload] at converted
    obtain rfl := Except.ok.inj converted
    rfl
termination_by structural c => c

/-- A value nests as deep as its message. -/
theorem toValue_nesting : (m : ValueMessage) → (v : Value) → m.toValue = .ok v →
    v.nesting = m.nesting
  | ⟨none, _, _⟩, v, converted => by
    rw [ValueMessage.toValue] at converted
    contradiction
  | ⟨some content, confidential, decryptWith⟩, v, converted => by
    rw [ValueMessage.toValue, Outcome.bind_ok_iff] at converted
    obtain ⟨payload, read, same⟩ := converted
    obtain rfl := Except.ok.inj same
    exact toPayload_nesting content payload read
termination_by structural m => m

/-- The arms of a split nest as deep as their messages. -/
theorem armsOfMessages_nesting : (messages : List (Arm (Option ValueMessage))) →
    (arms : List (Arm Value)) → armsOfMessages messages = .ok arms →
    armsNesting arms = armsDepth messages
  | [], arms, converted => by
    rw [armsOfMessages] at converted
    obtain rfl := Except.ok.inj converted
    rfl
  | ⟨_, none⟩ :: _, arms, converted => by
    rw [armsOfMessages] at converted
    contradiction
  | ⟨weight, some m⟩ :: rest, arms, converted => by
    rw [armsOfMessages, Outcome.bind_ok_iff] at converted
    obtain ⟨value, here, later⟩ := converted
    rw [Outcome.bind_ok_iff] at later
    obtain ⟨others, there, same⟩ := later
    obtain rfl := Except.ok.inj same
    rw [armsNesting, armsDepth, toValue_nesting m value here,
      armsOfMessages_nesting rest others there]
termination_by structural messages => messages

end

end Wire

namespace Value

/-- A value that has been read nests no deeper than a reader goes. -/
theorem decode?_nesting (bs : Bytes) (v : Value) (decoded : decode? bs = some (.ok v)) :
    v.nesting ≤ Wire.depthLimit := by
  obtain ⟨m, read, converted⟩ := Option.map_eq_some_iff.mp decoded
  obtain ⟨fields, -, merged⟩ := Option.bind_eq_some_iff.mp read
  rw [Wire.toValue_nesting m v converted]
  exact Wire.foldlM_keeps (·.nesting ≤ Wire.depthLimit) _ fields {} m
    (Wire.keeps_within Wire.depthLimit).value (Nat.zero_le _) merged

/-- The bytes of a well-formed value that is shallow enough for a reader are read back. -/
theorem decode?_encode (v : Value) (wellFormed : v.WellFormed)
    (shallow : v.nesting ≤ Wire.depthLimit) (short : v.encode.length < UInt64.size) :
    decode? v.encode = some (.ok v) := by
  have read := (Wire.value_merges v).decode?_writeAll short
  rw [decode?, encode, read, Wire.within, if_pos shallow, Option.map_some,
    Wire.toValue_valueMessage v wellFormed]

/-- A value that can be read from some bytes, and whose own bytes are not too many to be read. -/
def Readable (v : Value) : Prop :=
  (∃ bs, decode? bs = some (.ok v)) ∧ v.encode.length < UInt64.size

/-- A well-formed value can be read if it is shallow and short enough for a reader. -/
theorem readable_of_wellFormed (v : Value) (wellFormed : v.WellFormed)
    (shallow : v.nesting ≤ Wire.depthLimit) (short : v.encode.length < UInt64.size) :
    v.Readable :=
  ⟨⟨_, v.decode?_encode wellFormed shallow short⟩, short⟩

/-- A value that can be read from some bytes is read back from its own. -/
theorem decode?_readable (v : Value) (readable : v.Readable) :
    decode? v.encode = some (.ok v) := by
  obtain ⟨⟨bs, decoded⟩, short⟩ := readable
  obtain ⟨m, -, converted⟩ := Option.map_eq_some_iff.mp decoded
  exact v.decode?_encode (Wire.value_well_formed m v converted) (decode?_nesting bs v decoded) short

end Value

end LiveConfig
