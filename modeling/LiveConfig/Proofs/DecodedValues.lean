import LiveConfig.Proofs.KeyedTables
import LiveConfig.Proofs.Outcome
import LiveConfig.Proofs.WellFormedValues
import LiveConfig.Wire.ConfigMessage

/-!
# Decoded values

Whatever comes from the wire is well-formed: `Snapshot.decoded_well_formed` and
`Dump.decoded_well_formed` say so of all values of a decoded snapshot and of a decoded dump,
wherever they stand and however deep they nest. A message that breaks the rules has no value, and
what it was for is dropped: the config, or the single property.
-/

namespace LiveConfig

namespace Wire

/-- A checked split can decide, and is the one that was checked. -/
theorem checked_split_sound (s checked : Split Value) (passed : checkedSplit s = .ok checked) :
    checked = s ∧ s.Sound := by
  unfold checkedSplit at passed
  cases fault : s.fault? with
  | none =>
    rw [fault] at passed
    exact ⟨(Except.ok.inj passed).symm, s.fault_none_iff.mp fault⟩
  | some broken =>
    rw [fault] at passed
    contradiction

mutual

/-- What is made of a message's content follows the rules. -/
theorem payload_well_formed : (c : ValueContent) → (p : Payload) → c.toPayload = .ok p →
    p.WellFormed
  | .split ⟨arms, hashBy⟩, p, converted => by
    rw [ValueContent.toPayload, Outcome.bind_ok_iff] at converted
    obtain ⟨values, read, rest⟩ := converted
    rw [Outcome.bind_ok_iff] at rest
    obtain ⟨checked, passed, same⟩ := rest
    obtain ⟨rfl, sound⟩ := checked_split_sound _ checked passed
    obtain rfl : Payload.split ⟨values, hashBy⟩ = p := Except.ok.inj same
    intro s isSplit
    obtain rfl := Payload.split.inj isSplit
    exact ⟨sound, arms_well_formed arms values read⟩
  | .int _, p, converted | .text _, p, converted | .bytes _, p, converted
  | .double _, p, converted | .bool _, p, converted | .texts _, p, converted
  | .range _, p, converted | .provided _ _, p, converted | .json _, p, converted
  | .duration _, p, converted => by
    rw [ValueContent.toPayload] at converted
    obtain rfl := Except.ok.inj converted
    intro s isSplit
    contradiction
  | .logLevel number, p, converted => by
    rw [ValueContent.toPayload] at converted
    split at converted
    · obtain rfl := Except.ok.inj converted
      intro s isSplit
      contradiction
    · contradiction
termination_by structural c => c

/-- What is made of a message follows the rules. -/
theorem value_well_formed : (m : ValueMessage) → (v : Value) → m.toValue = .ok v → v.WellFormed
  | ⟨none, _, _⟩, v, converted => by
    rw [ValueMessage.toValue] at converted
    contradiction
  | ⟨some content, confidential, decryptWith⟩, v, converted => by
    rw [ValueMessage.toValue, Outcome.bind_ok_iff] at converted
    obtain ⟨payload, read, same⟩ := converted
    have wellFormed := payload_well_formed content payload read
    obtain rfl := Except.ok.inj same
    refine .intro ?_ (fun s isSplit => (wellFormed s isSplit).1)
      fun s isSplit => (wellFormed s isSplit).2
    intro blank
    obtain ⟨-, named⟩ := Option.filter_eq_some_iff.mp blank
    simp at named
termination_by structural m => m

/-- What is made of the messages of arms follows the rules. -/
theorem arms_well_formed : (messages : List (Arm (Option ValueMessage))) →
    (arms : List (Arm Value)) → armsOfMessages messages = .ok arms →
    ∀ arm ∈ arms, arm.value.WellFormed
  | [], arms, converted => by
    rw [armsOfMessages] at converted
    obtain rfl := Except.ok.inj converted
    simp
  | ⟨_, none⟩ :: _, arms, converted => by
    rw [armsOfMessages] at converted
    contradiction
  | ⟨weight, some m⟩ :: rest, arms, converted => by
    rw [armsOfMessages, Outcome.bind_ok_iff] at converted
    obtain ⟨value, here, later⟩ := converted
    rw [Outcome.bind_ok_iff] at later
    obtain ⟨others, there, same⟩ := later
    obtain rfl := Except.ok.inj same
    exact List.forall_mem_cons.mpr
      ⟨value_well_formed m value here, arms_well_formed rest others there⟩
termination_by structural messages => messages

end

/-- The target of a criterion that is made of a message follows the rules. -/
theorem criterion_well_formed (m : CriterionMessage) (c : Criterion)
    (converted : m.toCriterion = .ok c) (v : Value) (target : c.target = some v) :
    v.WellFormed := by
  rw [CriterionMessage.toCriterion, Outcome.bind_ok_iff] at converted
  obtain ⟨made, read, same⟩ := converted
  obtain rfl := Except.ok.inj same
  obtain rfl : made = some v := target
  cases sent : m.target with
  | none => simp [sent, pure, Except.pure] at read
  | some message =>
    rw [sent, Option.mapM_some] at read
    obtain ⟨value, here, again⟩ := (Outcome.map_ok_iff ..).mp read
    obtain rfl := Option.some.inj again
    exact value_well_formed message value here

/-- The values of a rule that is made of a message follow the rules. -/
theorem rule_well_formed (key : String) (m : RuleMessage) (r : Rule)
    (converted : m.toRule key = .ok r) :
    ∀ v ∈ r.value :: r.criteria.filterMap Criterion.target, v.WellFormed := by
  unfold RuleMessage.toRule at converted
  cases sent : m.value with
  | none => simp [sent] at converted
  | some message =>
    rw [sent] at converted
    obtain ⟨criteria, targets, rest⟩ := (Outcome.bind_ok_iff ..).mp converted
    obtain ⟨value, served, same⟩ := (Outcome.bind_ok_iff ..).mp rest
    obtain rfl := Except.ok.inj same
    intro v member
    rcases List.mem_cons.mp member with rfl | among
    · exact value_well_formed message _ served
    · obtain ⟨c, inside, target⟩ := List.mem_filterMap.mp among
      obtain ⟨source, -, made⟩ := Outcome.mem_of_mapM_ok _ _ _ targets c inside
      exact criterion_well_formed source c made v target

/-- The values of a config that is made of a message follow the rules. -/
theorem config_well_formed (m : ConfigMessage) (c : Config) (converted : m.toConfig = .ok c) :
    c.WellFormed := by
  rw [ConfigMessage.toConfig, Outcome.bind_ok_iff] at converted
  obtain ⟨rows, read, same⟩ := converted
  obtain rfl := Except.ok.inj same
  intro v member
  simp only [Config.values, List.mem_flatMap] at member
  obtain ⟨row, amongRows, rule, amongRules, inside⟩ := member
  obtain ⟨rowMessage, -, rowMade⟩ := Outcome.mem_of_mapM_ok _ _ _ read row amongRows
  rw [RowMessage.toRow, Outcome.bind_ok_iff] at rowMade
  obtain ⟨rules, rulesRead, sameRow⟩ := rowMade
  obtain rfl := Except.ok.inj sameRow
  obtain ⟨ruleMessage, -, ruleMade⟩ := Outcome.mem_of_mapM_ok _ _ _ rulesRead rule amongRules
  exact rule_well_formed m.key ruleMessage rule ruleMade v inside

/-- The configs that are kept of some messages follow the rules: one that does not is dropped. -/
theorem sound_configs_well_formed (messages : List ConfigMessage) :
    ∀ c ∈ soundConfigs messages, c.WellFormed := by
  intro c member
  obtain ⟨m, -, kept⟩ := List.mem_filterMap.mp member
  cases converted : m.toConfig with
  | error fault => simp [converted, Except.toOption] at kept
  | ok config =>
    obtain rfl : config = c := by simpa [converted, Except.toOption] using kept
    exact config_well_formed m config converted

/-- The properties that are kept of a group follow the rules: one that does not is dropped. -/
theorem group_well_formed (m : GroupMessage) (property : String) (v : Value)
    (kept : m.toGroup.2[property]? = some v) : v.WellFormed := by
  simp only [GroupMessage.toGroup, Std.ExtTreeMap.getElem?_filterMap',
    Option.bind_eq_some_iff] at kept
  obtain ⟨message, -, made⟩ := kept
  cases converted : message.toValue with
  | error fault => simp [converted, Except.toOption] at made
  | ok value =>
    obtain rfl : value = v := by simpa [converted, Except.toOption] using made
    exact value_well_formed message value converted

end Wire

/-- All values of a decoded snapshot follow the rules. -/
theorem Snapshot.decoded_well_formed (bs : Bytes) (s : Snapshot) (decoded : decode? bs = some s) :
    s.WellFormed := by
  obtain ⟨message, -, rfl⟩ := Option.map_eq_some_iff.mp decoded
  refine ⟨Wire.sound_configs_well_formed message.configs, ?_⟩
  intro context sent name properties group property v held
  obtain ⟨groups, -, rfl⟩ := Option.map_eq_some_iff.mp sent
  have listed := KeyedTable.mem_of_getElem?_ofList _ name properties group
  obtain ⟨m, -, same⟩ := List.mem_map.mp listed
  obtain rfl : m.toGroup.2 = properties := congrArg Prod.snd same
  exact Wire.group_well_formed m property v held

/-- All values of a decoded dump follow the rules. -/
theorem Dump.decoded_well_formed (bs : Bytes) (configs : List Config)
    (decoded : decode? bs = some configs) : ∀ c ∈ configs, c.WellFormed := by
  obtain ⟨entries, -, kept⟩ := Option.bind_eq_some_iff.mp decoded
  obtain rfl := Option.some.inj kept
  exact Wire.sound_configs_well_formed _

end LiveConfig
