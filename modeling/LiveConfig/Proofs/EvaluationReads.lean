import LiveConfig.Proofs.EvaluationAgreement

/-!
# What evaluation reads

A criterion tests one property or enters one segment, or neither. So what a config selects depends
on the properties that its criteria test, on what its segments serve and on the environment, and on
nothing else: `Config.select?_congr`.

Segments name segments in turn. `Catalog.Reaches` is the least set of keys that contains a key and
all that its members name, for segments as well as for the keys of secrets, and it is all of a
catalog that plays a part: `Catalog.segment_frame` compares two catalogs that agree there. The
induction is on the depth to which segments nest, since circles of names are allowed.
-/

namespace LiveConfig

open EvaluationAgreement (first_at_congr select_tried tried_mem)

/-- The property that a criterion tests. -/
def Criterion.property? (c : Criterion) : Option String :=
  match c.operator with
  | .unset | .always | .inSegment | .notInSegment => none
  | _ => some c.property

namespace Config

/-- The rules of a config, in all of its rows. -/
def rules (config : Config) : List Rule :=
  config.rows.flatMap Row.rules

/-- The properties that a config tests, in any of its rows. -/
def tested (config : Config) : List String :=
  config.rules.flatMap fun rule => rule.criteria.filterMap Criterion.property?

/-- The splits that a config serves. -/
def splits (config : Config) : List (Split Value) :=
  config.rules.filterMap fun rule => rule.value.split?

/-- The properties that a config reads: those that it tests, and those that decide its splits. -/
def properties (config : Config) : List String :=
  config.tested ++ config.splits.filterMap Split.hashBy

/-- The values that a config may decide on: those of its rules and those of the arms of splits. -/
def candidates (config : Config) : List Value :=
  config.rules.map Rule.value ++ config.splits.flatMap fun s => s.arms.map Arm.value

/-- The keys that a config's secrets name. -/
def secretKeys (config : Config) : List String :=
  config.candidates.filterMap Value.decryptWith

end Config

/-- A criterion comes to the same where the property that it tests has the same value and the
segment that it enters serves the same. -/
theorem Criterion.holds_congr (c : Criterion) (segment segment' : String → Option Bool)
    (lookup lookup' : Lookup)
    (segments : ∀ name, c.segment? = some name → segment' name = segment name)
    (properties : ∀ name, c.property? = some name → lookup' name = lookup name) :
    c.holds segment' lookup' = c.holds segment lookup := by
  have inside (operator : c.segment? = c.target >>= Value.text?) :
      inSegment segment' c.target = inSegment segment c.target := by
    cases named : c.target >>= Value.text? with
    | none => simp [inSegment, named]
    | some name => simp [inSegment, named, segments name (operator.trans named)]
  have read (tests : c.property? = some c.property) : lookup' c.property = lookup c.property :=
    properties c.property tests
  cases operator : c.operator with
  | unset => simp only [holds, operator]
  | always => simp only [holds, operator]
  | inSegment => simp only [holds, operator, inside (by simp only [segment?, operator])]
  | notInSegment => simp only [holds, operator, inside (by simp only [segment?, operator])]
  | _ => simp only [holds, operator, read (by simp only [property?, operator])]

/-- A rule holds alike where its criteria come to the same. -/
theorem Rule.holds_congr (rule : Rule) (segment segment' : String → Option Bool)
    (lookup lookup' : Lookup)
    (segments : ∀ c ∈ rule.criteria, ∀ name, c.segment? = some name →
      segment' name = segment name)
    (properties : ∀ c ∈ rule.criteria, ∀ name, c.property? = some name →
      lookup' name = lookup name) :
    rule.holds segment' lookup' = rule.holds segment lookup := by
  have each : ∀ c ∈ rule.criteria, c.holds segment' lookup' = c.holds segment lookup := by
    intro c among
    exact c.holds_congr segment segment' lookup lookup' (segments c among) (properties c among)
  rw [Rule.holds, Rule.holds, Bool.eq_iff_iff, List.all_eq_true, List.all_eq_true]
  exact forall₂_congr fun c among => by rw [each c among]

namespace Config

/-- The rules of the rows that are tried are rules of the config. -/
theorem mem_rules (config : Config) (environment : Option Int64) (row : Row) (rule : Rule)
    (tried : row ∈ ReferenceEvaluation.rowsTried environment config) (among : rule ∈ row.rules) :
    rule ∈ config.rules :=
  List.mem_flatMap.mpr ⟨row, tried_mem config environment row tried, among⟩

/-- What a criterion of a config tests, the config tests. -/
theorem mem_tested (config : Config) (rule : Rule) (c : Criterion) (name : String)
    (among : rule ∈ config.rules) (member : c ∈ rule.criteria) (tests : c.property? = some name) :
    name ∈ config.tested :=
  List.mem_flatMap.mpr ⟨rule, among, List.mem_filterMap.mpr ⟨c, member, tests⟩⟩

/-- What a criterion of a config enters, the config names. -/
theorem mem_segments (config : Config) (rule : Rule) (c : Criterion) (name : String)
    (among : rule ∈ config.rules) (member : c ∈ rule.criteria) (enters : c.segment? = some name) :
    name ∈ config.segments := by
  obtain ⟨row, inRows, inRules⟩ := List.mem_flatMap.mp among
  exact List.mem_flatMap.mpr ⟨row, inRows, List.mem_flatMap.mpr
    ⟨rule, inRules, List.mem_filterMap.mpr ⟨c, member, enters⟩⟩⟩

/-- A config selects alike where the properties that it tests have the same values and its segments
serve the same. -/
theorem select?_congr (config : Config) (environment : Option Int64)
    (segment segment' : String → Option Bool) (lookup lookup' : Lookup)
    (segments : ∀ name ∈ config.segments, segment' name = segment name)
    (properties : ∀ name ∈ config.tested, lookup' name = lookup name) :
    config.select? environment (·.holds segment' lookup') =
      config.select? environment (·.holds segment lookup) := by
  have rules : ∀ rule ∈ config.rules,
      rule.holds segment' lookup' = rule.holds segment lookup := by
    intro rule among
    apply rule.holds_congr
    · intro c member name enters
      exact segments name (config.mem_segments rule c name among member enters)
    · intro c member name tests
      exact properties name (config.mem_tested rule c name among member tests)
  rw [select_tried, select_tried]
  congr 1
  apply first_at_congr
  intro row tried
  apply first_at_congr
  intro rule among
  simp only [Option.guard, rules rule (config.mem_rules environment row rule tried among)]

end Config

namespace Catalog

/-- The keys that a resolution of a key may ask for: the key itself, and the segments and the keys
of secrets that stored configs of such keys name. -/
inductive Reaches (catalog : Catalog) (key : String) : String → Prop
  | self : Reaches catalog key key
  | segment {via name : String} {config : Config} (earlier : Reaches catalog key via)
      (stored : catalog.config? via = some config) (named : name ∈ config.segments) :
      Reaches catalog key name
  | secret {via name : String} {config : Config} (earlier : Reaches catalog key via)
      (stored : catalog.config? via = some config) (named : name ∈ config.secretKeys) :
      Reaches catalog key name

/-- A key is reached with a config. -/
def ReachesConfig (catalog : Catalog) (key : String) (config : Config) : Prop :=
  ∃ name, catalog.Reaches key name ∧ catalog.config? name = some config

/-- The properties that a resolution of a key may read. -/
def Reads (catalog : Catalog) (key property : String) : Prop :=
  ∃ config, catalog.ReachesConfig key config ∧ property ∈ config.properties

/-- What is reached from a key is the least of the sets that contain the key and all that their
members name. -/
theorem reaches_within (catalog : Catalog) (key : String) (keys : String → Prop) (self : keys key)
    (closed : ∀ via config, keys via → catalog.config? via = some config →
      ∀ name, name ∈ config.segments ∨ name ∈ config.secretKeys → keys name)
    (name : String) (reached : catalog.Reaches key name) : keys name := by
  induction reached with
  | self => exact self
  | segment _ stored named inductionHypothesis =>
    exact closed _ _ inductionHypothesis stored _ (.inl named)
  | secret _ stored named inductionHypothesis =>
    exact closed _ _ inductionHypothesis stored _ (.inr named)

/-- Two catalogs with their lookups agree on what a resolution of a key reaches in the first. -/
structure AgreeOn (catalog other : Catalog) (lookup lookup' : Lookup) (key : String) : Prop where
  configs : ∀ name, catalog.Reaches key name → other.config? name = catalog.config? name
  environment : other.environment = catalog.environment
  lookups : ∀ property, catalog.Reads key property → lookup' property = lookup property

section

variable {catalog other : Catalog} {lookup lookup' : Lookup} {key : String}

/-- Where two catalogs agree, the configs that are reached test properties alike. -/
theorem AgreeOn.tested (agree : catalog.AgreeOn other lookup lookup' key) (config : Config)
    (reached : catalog.ReachesConfig key config) :
    ∀ property ∈ config.tested, lookup' property = lookup property := by
  intro property among
  exact agree.lookups property ⟨config, reached, List.mem_append_left _ among⟩

/-- Where two catalogs agree, the segments that are reached serve the same at every depth. -/
theorem segment_frame (agree : catalog.AgreeOn other lookup lookup' key) (depth : Nat)
    (name : String) (reached : catalog.Reaches key name) :
    other.segment lookup' depth name = catalog.segment lookup depth name := by
  induction depth generalizing name with
  | zero => rfl
  | succ depth inductionHypothesis =>
    rw [segment, segment, agree.configs name reached, agree.environment]
    cases stored : catalog.config? name with
    | none => rfl
    | some config =>
      have selected := config.select?_congr catalog.environment (catalog.segment lookup depth)
        (other.segment lookup' depth) lookup lookup'
        (fun target named => inductionHypothesis target (.segment reached stored named))
        (agree.tested config ⟨name, reached, stored⟩)
      simp only [Option.bind_eq_bind, Option.bind_some, selected]

/-- Where two catalogs agree, a config that is reached selects the same. -/
theorem evaluate_frame (agree : catalog.AgreeOn other lookup lookup' key) (depth : Nat)
    (config : Config) (reached : catalog.ReachesConfig key config) :
    other.evaluate depth lookup' config = catalog.evaluate depth lookup config := by
  obtain ⟨name, there, stored⟩ := reached
  rw [evaluate, evaluate, agree.environment]
  apply config.select?_congr
  · intro target named
    exact segment_frame agree depth target (.segment there stored named)
  · exact agree.tested config ⟨name, there, stored⟩

end

end Catalog

end LiveConfig
