import LiveConfig.Proofs.EvaluationAgreement
import LiveConfig.Proofs.Outcome
import LiveConfig.Resolution

/-!
# The course of a resolution

A resolution takes one of four courses: the key has no config, no rule of its config holds, the
split that is selected cannot be decided, or a value is decided and then settled.
`resolveWith_course` says so with all that is known in each case, and what is proved of resolutions
goes by these cases.

A split can only fail to be decided for lack of arms: the index that is picked always is one of an
arm. A decided value is settled in one of three ways, and only the opening of a secret resolves
another key.
-/

namespace LiveConfig

/-- A selected rule is one of the config's. -/
theorem Config.select?_mem (c : Config) (environment : Option Int64) (holds : Rule → Bool)
    (found : Selection) (selected : c.select? environment holds = some found) :
    ∃ row ∈ c.rows, found.rule ∈ row.rules := by
  rw [EvaluationAgreement.select_tried, Option.map_eq_some_iff] at selected
  obtain ⟨⟨place, index, rule⟩, first, rfl⟩ := selected
  obtain ⟨row, tried, picked, -⟩ := (EvaluationAgreement.first_at_some_iff ..).mp first
  obtain ⟨here, -⟩ := (EvaluationAgreement.pick_some_iff ..).mp picked
  exact ⟨row, EvaluationAgreement.tried_mem c environment row (List.mem_of_getElem? tried),
    List.mem_of_getElem? here⟩

/-- A config with one rule is served by that rule where it holds, in every environment. -/
theorem Catalog.evaluate_single (catalog : Catalog) (depth : Nat) (lookup : Lookup) (id : Int64)
    (key : String) (kind : Kind) (rule : Rule) :
    catalog.evaluate depth lookup (.single id key kind rule) =
      if rule.holds (catalog.segment lookup depth) lookup then some { row := 0, index := 0, rule }
      else none := by
  cases holds : rule.holds (catalog.segment lookup depth) lookup <;>
    cases environment : catalog.environment <;>
    simp [evaluate, Config.select?, Config.rowFor?, Config.fallbackRow?, Config.single, Row.select?,
      holds, environment]

/-- A config with one rule that asks for nothing is served by that rule. -/
theorem Catalog.evaluate_unconditional (catalog : Catalog) (depth : Nat) (lookup : Lookup)
    (id : Int64) (key : String) (kind : Kind) (v : Value) :
    catalog.evaluate depth lookup (.single id key kind { value := v }) =
      some { row := 0, index := 0, rule := { value := v } } := by
  rw [evaluate_single]
  exact if_pos rfl

/-- A config that always serves one value is served by its only rule. -/
theorem Catalog.evaluate_constant (catalog : Catalog) (depth : Nat) (lookup : Lookup) (id : Int64)
    (key : String) (v : Value) : catalog.evaluate depth lookup (.constant id key v) =
      some { row := 0, index := 0, rule := { value := v } } :=
  catalog.evaluate_unconditional depth lookup id key _ v

namespace Split

/-- Where a threshold is reached, there is a weight. -/
theorem firstReaching?_lt (threshold : Float) (running : Int) (weights : List Int32) (index : Nat)
    (reached : firstReaching? threshold running weights = some index) : index < weights.length := by
  induction weights generalizing running index with
  | nil => simp [firstReaching?] at reached
  | cons w rest inductionHypothesis =>
    rw [firstReaching?] at reached
    split at reached
    · obtain rfl := Option.some.inj reached
      simp
    · obtain ⟨later, further, rfl⟩ := Option.map_eq_some_iff.mp reached
      have := inductionHypothesis _ later further
      simpa using this

/-- The index that is picked is one of a weight if there is any. -/
theorem pickIndex_lt (weights : List Int32) (fraction : Float) (some : weights ≠ []) :
    pickIndex weights fraction < weights.length := by
  unfold pickIndex
  cases reached : firstReaching? (fraction * Float.ofInt (sum weights)) 0 weights with
  | none => simpa [List.length_pos_iff] using some
  | some index => exact firstReaching?_lt _ _ _ index reached

/-- Of one weight there is nothing to pick. -/
theorem pickIndex_singleton (w : Int32) (fraction : Float) : pickIndex [w] fraction = 0 := by
  simp only [pickIndex, firstReaching?]
  split <;> rfl

/-- Exactly a split without arms gives none. -/
theorem pick?_none_iff (s : Split Value) (key : String) (lookup : Lookup) (chance : Float) :
    s.pick? key lookup chance = none ↔ s.arms = [] := by
  rw [pick?, Option.map_eq_none_iff, List.getElem?_eq_none_iff]
  have length : s.weights.length = s.arms.length := List.length_map _
  constructor
  · intro beyond
    by_contra some
    have inside := pickIndex_lt s.weights (s.fraction key lookup chance)
      (by simpa [weights] using some)
    omega
  · rintro empty
    simp [empty]

/-- The arm that is picked is one of the split's. -/
theorem pick?_mem (s : Split Value) (key : String) (lookup : Lookup) (chance : Float) (index : Nat)
    (arm : Arm Value) (picked : s.pick? key lookup chance = some (index, arm)) : arm ∈ s.arms := by
  obtain ⟨found, held, same⟩ := Option.map_eq_some_iff.mp picked
  obtain rfl : found = arm := congrArg Prod.snd same
  exact List.mem_of_getElem? held

end Split

/-- A value has a split if it holds one. -/
theorem Value.split_iff (v : Value) (s : Split Value) :
    v.split? = some s ↔ v.payload = .split s := by
  unfold split?
  cases v.payload <;> simp

namespace Resolver

variable (r : Resolver) (context : Context) (key : String)

/-- A value is decided as itself, or as an arm of its split. -/
theorem choose_ok (selected value : Value) (arm : Option Nat)
    (chosen : r.choose context key selected = .ok (arm, value)) :
    selected.split? = none ∧ value = selected ∨
      ∃ s, selected.split? = some s ∧ ∃ a ∈ s.arms, value = a.value := by
  unfold choose at chosen
  cases split : selected.split? with
  | none =>
    simp only [split, Except.ok.injEq, Prod.mk.injEq] at chosen
    exact .inl ⟨rfl, chosen.2.symm⟩
  | some s =>
    simp only [split] at chosen
    cases picked : s.pick? key (r.lookup context) (r.chance 0) with
    | none => simp [picked] at chosen
    | some choice =>
      obtain ⟨index, a⟩ := choice
      simp only [picked, Except.ok.injEq, Prod.mk.injEq] at chosen
      exact .inr ⟨s, rfl, a, s.pick?_mem key _ _ index a picked, chosen.2.symm⟩

/-- A split is decided as such only where it is an arm of the selected split. -/
theorem choose_nested (selected value : Value) (arm : Option Nat)
    (chosen : r.choose context key selected = .ok (arm, value)) (s : Split Value)
    (split : value.payload = .split s) :
    ∃ outer, selected.payload = .split outer ∧ ∃ a ∈ outer.arms, a.value = value := by
  rcases r.choose_ok context key selected value arm chosen with
    ⟨whole, same⟩ | ⟨outer, isSplit, a, member, same⟩
  · rw [← same, (value.split_iff s).mpr split] at whole
    contradiction
  · exact ⟨outer, (selected.split_iff outer).mp isSplit, a, member, same.symm⟩

/-- Only a split without arms is not decided. -/
theorem choose_error (selected : Value) (cause : ConfigError)
    (stuck : r.choose context key selected = .error cause) :
    cause = .invalid (.emptySplit key) ∧ ∃ s, selected.split? = some s ∧ s.arms = [] := by
  unfold choose at stuck
  cases split : selected.split? with
  | none => simp [split] at stuck
  | some s =>
    simp only [split] at stuck
    cases picked : s.pick? key (r.lookup context) (r.chance 0) with
    | none =>
      simp only [picked, Except.error.injEq] at stuck
      exact ⟨stuck.symm, s, rfl, (s.pick?_none_iff ..).mp picked⟩
    | some choice => simp [picked] at stuck

/-- The value that is decided for a key, before it is settled. -/
def decided? : Option Value :=
  (r.selected? context key).bind fun selected =>
    (r.choose context key selected).toOption.map Prod.snd

/-- A value is decided exactly if one is selected that is decided so. -/
theorem decided?_some_iff (v : Value) :
    r.decided? context key = some v ↔ ∃ selected arm, r.selected? context key = some selected ∧
      r.choose context key selected = .ok (arm, v) := by
  cases selected : r.selected? context key with
  | none => simp [decided?, selected]
  | some value =>
    cases chosen : r.choose context key value with
    | error cause => simp [decided?, selected, chosen, Except.toOption]
    | ok choice => simp [decided?, selected, chosen, Except.toOption, Prod.ext_iff]

/-- What a resolution gives, with what led to it. -/
inductive Course (opener : Opener) : Except ConfigError Resolution → Prop
  /-- The key has no config. -/
  | missing (absent : r.catalog.config? key = none) : Course opener (.error (.missingConfig key))
  /-- No rule of the config holds. -/
  | unmatched (config : Config) (held : r.catalog.config? key = some config)
      (none : r.selected? context key = none) :
      Course opener (.ok { key, config, selection := Option.none })
  /-- The split that is selected cannot be decided. -/
  | undecided (selected : Value) (serves : r.selected? context key = some selected)
      (cause : ConfigError) (stuck : r.choose context key selected = .error cause) :
      Course opener (.error cause)
  /-- A value is decided and settled. -/
  | decided (config : Config) (held : r.catalog.config? key = some config) (found : Selection)
      (serves : r.selected? context key = some found.rule.value) (arm : Option Nat) (value : Value)
      (chosen : r.choose context key found.rule.value = .ok (arm, value)) :
      Course opener <| (r.settle opener config.valueType found.rule.value value).map fun settled =>
        { key, config, selection := some found, arm, value := some settled }

/-- Every resolution takes one of the courses. -/
theorem resolveWith_course (opener : Opener) :
    r.Course context key opener (r.resolveWith opener context key) := by
  unfold resolveWith
  cases held : r.catalog.config? key with
  | none => exact .missing held
  | some config =>
    cases matched : r.catalog.evaluate r.depth (r.lookup context) config with
    | none =>
      simp only [matched]
      exact .unmatched config held (by simp [selected?, held, matched])
    | some found =>
      have serves : r.selected? context key = some found.rule.value := by
        simp [selected?, held, matched]
      simp only [matched]
      cases chosen : r.choose context key found.rule.value with
      | error cause => exact .undecided found.rule.value serves cause chosen
      | ok choice =>
        obtain ⟨arm, value⟩ := choice
        exact .decided config held found serves arm value chosen

/-- A value is served where one was decided and settled; the resolution names the rule that it was
selected by and the arm that was decided. -/
theorem resolveWith_value (opener : Opener) (resolution : Resolution) (v : Value)
    (resolved : r.resolveWith opener context key = .ok resolution)
    (served : resolution.value = some v) :
    ∃ found decided, resolution.selection = some found ∧
      r.selected? context key = some found.rule.value ∧
      r.choose context key found.rule.value = .ok (resolution.arm, decided) ∧
      r.settle opener resolution.config.valueType found.rule.value decided = .ok v := by
  have course := r.resolveWith_course context key opener
  rw [resolved] at course
  generalize outcome : Except.ok (ε := ConfigError) resolution = result at course
  cases course with
  | missing absent => cases outcome
  | unmatched config held none =>
    obtain rfl := Except.ok.inj outcome
    cases served
  | undecided selected serves cause stuck => cases outcome
  | decided config held found serves arm decided chosen =>
    obtain ⟨settled, done, rfl⟩ := (Outcome.map_ok_iff ..).mp outcome.symm
    obtain rfl : settled = v := Option.some.inj served
    exact ⟨found, decided, rfl, serves, chosen, done⟩

/-- A value is served where one was decided and settled. -/
theorem resolveWith_served (opener : Opener) (resolution : Resolution) (v : Value)
    (resolved : r.resolveWith opener context key = .ok resolution)
    (served : resolution.value = some v) :
    ∃ selected arm decided, r.selected? context key = some selected ∧
      r.choose context key selected = .ok (arm, decided) ∧
      r.settle opener resolution.config.valueType selected decided = .ok v := by
  obtain ⟨found, decided, -, serves, chosen, done⟩ :=
    r.resolveWith_value context key opener resolution v resolved served
  exact ⟨found.rule.value, resolution.arm, decided, serves, chosen, done⟩

/-- A secret is opened exactly with a text that its key resolved to and that decrypts it. -/
theorem openWith_ok_iff (resolved : Except ConfigError Resolution) (name sealed text : String) :
    r.openWith resolved name sealed = .ok text ↔
      ∃ inner v secretKey, resolved = .ok inner ∧ inner.value = some v ∧
        v.payload = .text secretKey ∧ r.decrypter secretKey sealed = .ok text := by
  cases resolved with
  | error cause => simp [openWith]
  | ok inner =>
    cases held : inner.value >>= Value.text? with
    | none =>
      simp only [openWith, held, reduceCtorEq, false_iff]
      rintro ⟨inner, v, secretKey, same, value, payload, -⟩
      obtain rfl := Except.ok.inj same
      simp [value, Value.text?, payload] at held
    | some secretKey =>
      obtain ⟨v, value, text⟩ := Option.bind_eq_some_iff.mp held
      rw [ReferenceEvaluation.text_iff] at text
      simp only [openWith, held, Outcome.mapError_ok_iff]
      constructor
      · intro decrypted
        exact ⟨inner, v, secretKey, rfl, value, text, decrypted⟩
      · rintro ⟨_, w, other, same, otherValue, payload, decrypted⟩
        obtain rfl := Except.ok.inj same
        obtain rfl : v = w := Option.some.inj (value.symm.trans otherValue)
        obtain rfl : secretKey = other := Payload.text.inj (text.symm.trans payload)
        exact decrypted

/-- What is not opened fails as undecryptable, and names the failure of its key if that failed. -/
theorem openWith_error (resolved : Except ConfigError Resolution) (name sealed : String)
    (error : ConfigError) (failed : r.openWith resolved name sealed = .error error) :
    ∃ fault, error = .undecryptable fault ∧
      ∀ key cause, fault = .keyUnresolved key cause → resolved = .error cause := by
  cases resolved with
  | error cause =>
    obtain rfl := Except.error.inj failed
    refine ⟨_, rfl, fun key other same => ?_⟩
    rw [(DecryptionFault.keyUnresolved.inj same).2]
  | ok inner =>
    unfold openWith at failed
    cases held : inner.value >>= Value.text? with
    | none =>
      simp only [held] at failed
      obtain rfl := Except.error.inj failed
      exact ⟨_, rfl, fun _ _ same => by contradiction⟩
    | some secretKey =>
      simp only [held, Outcome.mapError_error_iff] at failed
      obtain ⟨fault, -, rfl⟩ := failed
      exact ⟨_, rfl, fun _ _ same => by contradiction⟩

/-- How secrets are opened on behalf of a key where so many more keys may be resolved for it. -/
def openerAt (context : Context) (left : Nat) (r : Resolver) (key : String) : Opener :=
  match left with
  | 0 => fun name _ => .error (.undecryptable (.chainTooDeep name))
  | left + 1 => fun name sealed =>
    r.openWith (resolveAt context left (r.skip (r.draws context key)) name) name sealed

/-- At each level a resolution is the same but for how secrets are opened. -/
theorem resolveAt_eq (left : Nat) :
    resolveAt context left r key = r.resolveWith (openerAt context left r key) context key := by
  cases left <;> rfl

/-- Marking a value changes what it holds no more than how it is sealed. -/
theorem inherit_payload (selected value : Value) :
    (inherit selected value).payload = value.payload := by
  unfold inherit
  split <;> rfl

/-- A text with the name of a key is a secret: it is opened. -/
theorem settle_secret (opener : Opener) (target : ValueType) (selected value : Value)
    (sealed name : String) (text : value.payload = .text sealed)
    (named : value.decryptWith = some name) :
    r.settle opener target selected value =
      (opener name sealed).map fun text => { payload := .text text, confidential := true } := by
  simp only [settle, text, named]

/-- A value that is served as it was selected keeps its mark. -/
theorem inherit_self (value : Value) : inherit value value = value := by
  obtain ⟨payload, confidential, decryptWith⟩ := value
  cases confidential with
  | false => rfl
  | true =>
    unfold inherit
    split <;> rfl

/-- What is neither a split nor provided nor sealed. -/
structure Plain (v : Value) : Prop where
  whole : ∀ s, v.payload ≠ .split s
  here : ∀ p, v.payload ≠ .provided p
  clear : v.decryptWith = none

/-- A plain value is settled as it is. -/
theorem settle_plain (opener : Opener) (target : ValueType) (value : Value) (plain : Plain value) :
    r.settle opener target value value = .ok value := by
  unfold settle
  split
  · exact absurd ‹_› (plain.here _)
  · next named => simp [plain.clear] at named
  · rw [inherit_self]

/-- A config that serves a plain value unconditionally is resolved to that value, in every context,
by every resolver and at every level. -/
theorem resolveAt_unconditional (left : Nat) (id : Int64) (name : String) (kind : Kind) (v : Value)
    (plain : Plain v)
    (held : r.catalog.config? key = some (.single id name kind { value := v })) :
    resolveAt context left r key = .ok
      { key, config := .single id name kind { value := v },
        selection := some { row := 0, index := 0, rule := { value := v } },
        value := some v } := by
  have chosen : r.choose context key v = .ok (none, v) := by
    have whole : v.split? = none := by
      rw [Option.eq_none_iff_forall_ne_some]
      exact fun s split => plain.whole s ((v.split_iff s).mp split)
    simp [choose, whole]
  rw [resolveAt_eq, resolveWith, held]
  simp only [Catalog.evaluate_unconditional, chosen]
  exact congrArg (Except.map _) (r.settle_plain _ _ v plain)

/-- A provided value that is read is the text of its variable, coerced. -/
theorem provide_ok (p : Provided) (target : ValueType) (confidential : Bool) (value : Value)
    (read : r.provide p target confidential = .ok value) :
    p.origin = .environment ∧ ∃ text, r.vars[p.name]? = some text ∧
      coerce? text target = some value.payload := by
  unfold provide at read
  cases origin : p.origin with
  | unset => simp [origin] at read
  | environment =>
    cases held : r.vars[p.name]? with
    | none => simp [origin, held] at read
    | some text =>
      cases coerced : coerce? text target with
      | none => simp [origin, held, coerced] at read
      | some payload =>
        simp only [origin, held, coerced, Except.ok.injEq] at read
        exact ⟨rfl, text, rfl, by rw [coerced, ← read]⟩

/-- A provided value that is not read has no origin, names no variable that is set, or is not
coerced. -/
theorem provide_error (p : Provided) (target : ValueType) (confidential : Bool)
    (error : ConfigError) (failed : r.provide p target confidential = .error error) :
    error = .invalid (.noOriginFor p.name) ∨ error = .missingVariable p.name ∨
      error = .notCoercible p.name target := by
  unfold provide at failed
  cases origin : p.origin with
  | unset =>
    simp only [origin, Except.error.injEq] at failed
    exact .inl failed.symm
  | environment =>
    cases held : r.vars[p.name]? with
    | none =>
      simp only [origin, held, Except.error.injEq] at failed
      exact .inr (.inl failed.symm)
    | some text =>
      cases coerced : coerce? text target with
      | none =>
        simp only [origin, held, coerced, Except.error.injEq] at failed
        exact .inr (.inr failed.symm)
      | some payload => simp [origin, held, coerced] at failed

/-- A settled value is a provided value that was read, the text of a secret, or the decided value
but for a mark. -/
theorem settle_ok (opener : Opener) (target : ValueType) (selected value settled : Value)
    (done : r.settle opener target selected value = .ok settled) :
    (∃ p, value.payload = .provided p ∧ p.origin = .environment ∧
      ∃ text, r.vars[p.name]? = some text ∧ coerce? text target = some settled.payload) ∨
    (∃ sealed text, value.payload = .text sealed ∧ settled.payload = .text text) ∨
    (∀ p, value.payload ≠ .provided p) ∧ settled.payload = value.payload := by
  cases held : value.payload with
  | provided p =>
    simp only [settle, held] at done
    obtain ⟨read, here, rfl⟩ := (Outcome.map_ok_iff ..).mp done
    obtain ⟨origin, text, known, coerced⟩ := r.provide_ok p target _ read here
    exact .inl ⟨p, rfl, origin, text, known, by rw [inherit_payload, coerced]⟩
  | text sealed =>
    cases named : value.decryptWith with
    | some name =>
      simp only [settle, held, named] at done
      obtain ⟨text, -, rfl⟩ := (Outcome.map_ok_iff ..).mp done
      exact .inr (.inl ⟨sealed, text, rfl, rfl⟩)
    | none =>
      simp only [settle, held, named] at done
      obtain rfl := Except.ok.inj done
      exact .inr (.inr ⟨by simp, (inherit_payload selected value).trans held⟩)
  | _ =>
    simp only [settle, held] at done
    obtain rfl := Except.ok.inj done
    exact .inr (.inr ⟨by simp, (inherit_payload selected value).trans held⟩)

/-- A decided value is not settled only if it is provided and cannot be read, or if it is a secret
and cannot be opened. -/
theorem settle_error (opener : Opener) (target : ValueType) (selected value : Value)
    (error : ConfigError) (failed : r.settle opener target selected value = .error error) :
    (∃ p, r.provide p target value.confidential = .error error) ∨
      ∃ sealed name, opener name sealed = .error error := by
  unfold settle at failed
  split at failed
  · exact .inl ⟨_, (Outcome.map_error_iff ..).mp failed⟩
  · exact .inr ⟨_, _, (Outcome.map_error_iff ..).mp failed⟩
  · contradiction

end Resolver

end LiveConfig
