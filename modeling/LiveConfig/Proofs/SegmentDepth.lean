import LiveConfig.Proofs.EvaluationAgreement

/-!
# Segments within the limit

Evaluation enters segments to a limit and takes those beyond it for missing. Where segments are
ranked, so that a segment names only segments of lower rank, nothing beyond the limit is ever
reached from a config that names segments of rank below it, and what is evaluated is what can be
derived without any limit.

The limit does not act in one direction only, since beyond it a segment's negation holds. The proof
is therefore no approximation from below: at each depth all that is derived is compared at once,
what holds and what does not.
-/

namespace LiveConfig.SegmentDepth

open ReferenceEvaluation EvaluationAgreement

/-- Segments are ranked if a stored config names only stored segments of lower rank. Names without a
config do not count. -/
def Ranked (catalog : Catalog) (rank : String → Nat) : Prop :=
  ∀ key config, catalog.config? key = some config →
    ∀ target ∈ config.segments, (catalog.config? target).isSome → rank target < rank key

/-- A config is within a limit if it names only stored segments of rank below it. -/
def Within (catalog : Catalog) (rank : String → Nat) (config : Config) (limit : Nat) : Prop :=
  ∀ target ∈ config.segments, (catalog.config? target).isSome → rank target < limit

/-- A missing segment serves nothing, at any depth, and does not hold. -/
theorem missing_right (catalog : Catalog) (lookup : Lookup) (depth : Nat) (key : String)
    (absent : catalog.config? key = none) :
    RightAbout catalog lookup (catalog.segment lookup depth) key := by
  have served : catalog.segment lookup depth key = none := by
    cases depth <;> simp [Catalog.segment, absent]
  intro verdict
  rw [served]
  constructor
  · intro member
    cases member with
    | holds stored _ _ => simp [absent] at stored
    | fails _ _ _ => rfl
    | missing _ => rfl
  · rintro rfl
    exact .missing absent

/-- Evaluation is right about a stored segment if it gives what can be derived for its config where
one segment less may be entered. -/
theorem stored_right (catalog : Catalog) (lookup : Lookup) (depth : Nat) (key : String)
    (config : Config) (stored : catalog.config? key = some config)
    (exact : ∀ outcome, Selects catalog lookup config outcome ↔
      catalog.evaluate depth lookup config = outcome) :
    RightAbout catalog lookup (catalog.segment lookup (depth + 1)) key := by
  have served : catalog.segment lookup (depth + 1) key =
      (catalog.evaluate depth lookup config).bind fun found => found.rule.value.bool? := by
    simp [Catalog.segment, Catalog.evaluate, stored]
  intro verdict
  rw [served]
  constructor
  · intro member
    cases member with
    | holds other selects value =>
      obtain rfl : config = _ := Option.some.inj (stored.symm.trans other)
      rw [(exact _).mp selects, Option.bind_some, (bool_iff _ true).mpr value]
      rfl
    | @fails _ _ outcome other selects value =>
      obtain rfl : config = _ := Option.some.inj (stored.symm.trans other)
      rw [(exact _).mp selects]
      cases outcome with
      | none => rfl
      | some selection =>
        rw [Option.bind_some, beq_eq_false_iff_ne, ne_eq, bool_iff]
        exact value selection rfl
    | missing absent => simp [stored] at absent
  · rintro rfl
    cases evaluated : catalog.evaluate depth lookup config with
    | none => exact .fails stored ((exact none).mpr evaluated) (by simp)
    | some selection =>
      have selects := (exact (some selection)).mpr evaluated
      rw [Option.bind_some]
      by_cases value : selection.rule.value.payload = .bool true
      · rw [(bool_iff _ true).mpr value]
        exact .holds stored selects value
      · have unequal : (selection.rule.value.bool? == some true) = false := by
          rw [beq_eq_false_iff_ne, ne_eq, bool_iff]
          exact value
        rw [unequal]
        exact .fails stored selects fun other same => Option.some.inj same ▸ value

/-- Evaluation is right about every stored segment of rank below the limit, and about every missing
one.

The induction is on the limit. A segment of rank below the limit names segments of lower rank, which
are below the limit that remains once it is entered. -/
theorem segment_right (catalog : Catalog) (lookup : Lookup) (rank : String → Nat)
    (ranked : Ranked catalog rank) (limit : Nat) (key : String)
    (below : (catalog.config? key).isSome → rank key < limit) :
    RightAbout catalog lookup (catalog.segment lookup limit) key := by
  induction limit generalizing key with
  | zero =>
    refine missing_right catalog lookup 0 key ?_
    simpa using below
  | succ limit inductionHypothesis =>
    cases stored : catalog.config? key with
    | none => exact missing_right catalog lookup (limit + 1) key stored
    | some config =>
      refine stored_right catalog lookup limit key config stored ?_
      refine selects_iff catalog lookup (catalog.segment lookup limit) config ?_
      intro target named
      refine inductionHypothesis target fun present => ?_
      have lower := ranked key config stored target named present
      have within := below (by simp [stored])
      omega

/-- The limit does not change the meaning of ranked segments. For a config that names only stored
segments of rank below the limit, evaluation selects just what can be derived without a limit, and
every greater limit selects the same. -/
theorem evaluate_within_limit (catalog : Catalog) (lookup : Lookup) (rank : String → Nat)
    (ranked : Ranked catalog rank) (limit : Nat) (config : Config)
    (within : Within catalog rank config limit) :
    (∀ outcome, Selects catalog lookup config outcome ↔
        catalog.evaluate limit lookup config = outcome) ∧
      ∀ greater, limit ≤ greater →
        catalog.evaluate greater lookup config = catalog.evaluate limit lookup config := by
  have derived (larger : Nat) (enough : limit ≤ larger) (outcome : Option Selection) :
      Selects catalog lookup config outcome ↔
        catalog.evaluate larger lookup config = outcome := by
    refine selects_iff catalog lookup (catalog.segment lookup larger) config ?_ outcome
    intro target named
    refine segment_right catalog lookup rank ranked larger target fun present => ?_
    exact Nat.lt_of_lt_of_le (within target named present) enough
  refine ⟨derived limit (Nat.le_refl limit), fun greater enough => ?_⟩
  exact (derived greater enough _).mp ((derived limit (Nat.le_refl limit) _).mpr rfl)

/-- A config with one rule, which has one criterion and serves true. -/
def guarded (key : String) (operator : Operator) (target : String) : Config :=
  { key, rows := [{ rules := [{
      criteria := [{ operator, target := some { payload := .text target } }]
      value := { payload := .bool true } }] }] }

/-- A segment that always holds and one that is its negation. -/
def twoSegments : Catalog where
  config? key :=
    [guarded "inner" .always "", guarded "outer" .notInSegment "inner"].find? (·.key == key)

/-- A limit that is just enough. With one less the inner segment is not entered, its negation holds
and the config that excludes the outer segment selects nothing. -/
theorem two_segments_within_limit :
    Selects twoSegments (fun _ => none) (guarded "top" .notInSegment "outer")
        (twoSegments.evaluate 2 (fun _ => none) (guarded "top" .notInSegment "outer")) ∧
      (twoSegments.evaluate 2 (fun _ => none) (guarded "top" .notInSegment "outer")).isSome ∧
      (twoSegments.evaluate 1 (fun _ => none) (guarded "top" .notInSegment "outer")).isNone := by
  have ranked : Ranked twoSegments fun key => if key = "outer" then 1 else 0 := by
    intro key config stored target named present
    have isKey : config.key = key := by simpa using List.find?_some stored
    subst isKey
    have listed := List.mem_of_find?_eq_some stored
    simp only [List.mem_cons, List.not_mem_nil, or_false] at listed
    rcases listed with rfl | rfl
    · simp [guarded, Config.segments, Criterion.segment?] at named
    · obtain rfl : target = "inner" := by
        simpa [guarded, Config.segments, Criterion.segment?, Value.text?] using named
      decide
  have within : Within twoSegments (fun key => if key = "outer" then 1 else 0)
      (guarded "top" .notInSegment "outer") 2 := by
    intro target _ _
    dsimp only
    split <;> decide
  refine ⟨?_, rfl, rfl⟩
  exact ((evaluate_within_limit twoSegments (fun _ => none) _ ranked 2 _ within).1 _).mpr rfl

end LiveConfig.SegmentDepth
