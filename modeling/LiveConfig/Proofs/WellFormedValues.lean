import LiveConfig.Snapshot

/-!
# Well-formed values

A split can decide if it has arms, no weight below zero and some weight at all. A value is
well-formed if its mark names a config wherever it names anything, and if its split, should it be
one, can decide and has well-formed arms only.

The types do not enforce this, but it can be computed: `Value.wellFormed` follows the value, and so
what is made of values can be decided too.
-/

namespace LiveConfig

/-- A split that can decide. -/
structure Split.Sound {α : Type} (s : Split α) : Prop where
  arms : s.arms ≠ []
  weights : ∀ arm ∈ s.arms, 0 ≤ arm.weight
  total : 0 < s.total

/-- A value that follows the rules, with all that nests in it. -/
inductive Value.WellFormed : Value → Prop
  | intro {v : Value} (mark : v.decryptWith ≠ some "")
      (sound : ∀ s, v.payload = .split s → s.Sound)
      (arms : ∀ s, v.payload = .split s → ∀ arm ∈ s.arms, WellFormed arm.value) : WellFormed v

/-- A payload that follows the rules: a split that can decide, with well-formed arms, or no split.
-/
def Payload.WellFormed (p : Payload) : Prop :=
  ∀ s, p = .split s → s.Sound ∧ ∀ arm ∈ s.arms, arm.value.WellFormed

/-- The values that a config holds: those it serves and those its criteria compare with. -/
def Config.values (c : Config) : List Value :=
  c.rows.flatMap fun row => row.rules.flatMap fun rule =>
    rule.value :: rule.criteria.filterMap Criterion.target

/-- A config all of whose values follow the rules. -/
def Config.WellFormed (c : Config) : Prop :=
  ∀ v ∈ c.values, v.WellFormed

/-- A context all of whose properties follow the rules. -/
def Context.WellFormed (context : Context) : Prop :=
  ∀ (name : String) (properties : Properties), context[name]? = some properties →
    ∀ (property : String) (v : Value), properties[property]? = some v → v.WellFormed

/-- A snapshot all of whose values follow the rules. -/
structure Snapshot.WellFormed (s : Snapshot) : Prop where
  configs : ∀ c ∈ s.configs, c.WellFormed
  defaultContext : ∀ context, s.defaultContext = some context → context.WellFormed

/-- A split has no fault exactly if it can decide. -/
theorem Split.fault_none_iff {α : Type} (s : Split α) : s.fault? = none ↔ s.Sound := by
  unfold fault?
  constructor
  · intro faultless
    split at faultless
    · contradiction
    split at faultless
    · contradiction
    split at faultless
    · contradiction
    next some nonnegative positive =>
      refine ⟨by simpa using some, ?_, by omega⟩
      intro arm member
      rw [Bool.not_eq_true, List.any_eq_false] at nonnegative
      have bound := nonnegative arm.weight (List.mem_map.mpr ⟨arm, member, rfl⟩)
      simpa using bound
  · intro sound
    have some : s.arms.isEmpty = false := by simpa using sound.arms
    have nonnegative : s.weights.any (· < 0) = false := by
      rw [List.any_eq_false]
      intro weight member
      obtain ⟨arm, among, rfl⟩ := List.mem_map.mp member
      simpa using sound.weights arm among
    have positive : ¬s.total ≤ 0 := by
      have := sound.total
      omega
    simp [some, nonnegative, positive]

mutual

/-- Whether a payload follows the rules. -/
def Payload.wellFormed : Payload → Bool
  | .split ⟨arms, hashBy⟩ => (Split.mk arms hashBy).fault?.isNone && armsWellFormed arms
  | _ => true
termination_by structural p => p

/-- Whether a value follows the rules. -/
def Value.wellFormed : Value → Bool
  | ⟨payload, _, decryptWith⟩ => decryptWith != some "" && payload.wellFormed
termination_by structural v => v

/-- Whether the values of arms follow the rules. -/
def armsWellFormed : List (Arm Value) → Bool
  | [] => true
  | ⟨_, value⟩ :: arms => value.wellFormed && armsWellFormed arms
termination_by structural arms => arms

end

mutual

/-- Whether a payload follows the rules can be computed. -/
theorem Payload.wellFormed_iff : (p : Payload) → (p.wellFormed = true ↔ p.WellFormed)
  | .split ⟨arms, hashBy⟩ => by
    rw [Payload.wellFormed, Bool.and_eq_true, Option.isNone_iff_eq_none, Split.fault_none_iff,
      armsWellFormed_iff arms]
    refine ⟨fun parts s same => Payload.split.inj same ▸ parts, fun parts => parts _ rfl⟩
  | .int _ | .text _ | .bytes _ | .double _ | .bool _ | .logLevel _ | .texts _ | .range _
  | .provided _ | .json _ | .duration _ => by
    simp [Payload.wellFormed, Payload.WellFormed]
termination_by structural p => p

/-- Whether a value follows the rules can be computed. -/
theorem Value.wellFormed_iff : (v : Value) → (v.wellFormed = true ↔ v.WellFormed)
  | ⟨payload, confidential, decryptWith⟩ => by
    rw [Value.wellFormed, Bool.and_eq_true, bne_iff_ne, Payload.wellFormed_iff payload]
    constructor
    · rintro ⟨mark, parts⟩
      exact .intro mark (fun s same => (parts s same).1) fun s same => (parts s same).2
    · rintro ⟨mark, sound, arms⟩
      exact ⟨mark, fun s same => ⟨sound s same, arms s same⟩⟩
termination_by structural v => v

/-- Whether the values of arms follow the rules can be computed. -/
theorem armsWellFormed_iff : (arms : List (Arm Value)) →
    (armsWellFormed arms = true ↔ ∀ arm ∈ arms, arm.value.WellFormed)
  | [] => by simp [armsWellFormed]
  | ⟨weight, value⟩ :: arms => by
    rw [armsWellFormed, Bool.and_eq_true, Value.wellFormed_iff value, armsWellFormed_iff arms,
      List.forall_mem_cons]
termination_by structural arms => arms

end

instance (v : Value) : Decidable v.WellFormed :=
  decidable_of_iff _ v.wellFormed_iff

instance (c : Config) : Decidable c.WellFormed :=
  inferInstanceAs (Decidable (∀ v ∈ c.values, v.WellFormed))

/-- A context follows the rules if the properties in its listing do. -/
theorem Context.wellFormed_iff (c : Context) :
    (∀ group ∈ c.toList, ∀ property ∈ group.2.toList, property.2.WellFormed) ↔ c.WellFormed := by
  constructor
  · intro listed name properties group property v held
    exact listed (name, properties) (Std.ExtTreeMap.mem_toList_iff_getElem?_eq_some.mpr group)
      (property, v) (Std.ExtTreeMap.mem_toList_iff_getElem?_eq_some.mpr held)
  · rintro wellFormed ⟨name, properties⟩ group ⟨property, v⟩ held
    exact wellFormed name properties (Std.ExtTreeMap.mem_toList_iff_getElem?_eq_some.mp group)
      property v (Std.ExtTreeMap.mem_toList_iff_getElem?_eq_some.mp held)

instance (c : Context) : Decidable c.WellFormed :=
  decidable_of_iff _ c.wellFormed_iff

instance (s : Snapshot) : Decidable s.WellFormed :=
  decidable_of_iff
    ((∀ c ∈ s.configs, c.WellFormed) ∧ ∀ context ∈ s.defaultContext, context.WellFormed)
    ⟨fun parts => ⟨parts.1, parts.2⟩, fun whole => ⟨whole.configs, whole.defaultContext⟩⟩

end LiveConfig
