import LiveConfig.Proofs.ReferenceEvaluation

/-!
# Evaluation agrees with its rules

Whatever serves segments: if it is right about the segments that are named, the functions of the
model give just what can be derived. There is one lemma for every kind of thing that is derived, a
criterion, a rule, a row and a config, and each is assembled from the one before it.

Rows and rules are taken from the front while a rule of derivation names a place and says something
of all places before it. Searches from the front are therefore described by places first.
-/

namespace LiveConfig.EvaluationAgreement

open ReferenceEvaluation

/-- A function is right about a segment if it serves true where the segment holds, and only where
it does not hold serves anything else. -/
def RightAbout (catalog : Catalog) (lookup : Lookup) (segment : String → Option Bool)
    (key : String) : Prop :=
  ∀ verdict, Member catalog lookup key verdict ↔ (segment key == some true) = verdict

/-- The first place in a list at which a function gives something, and what it gives there. -/
def firstAt? {α β : Type} (f : α → Option β) (xs : List α) : Option (Nat × β) :=
  (xs.findIdx? fun a => (f a).isSome).bind fun place =>
    (xs[place]?.bind f).map fun b => (place, b)

/-- What is found first is given at its place and nothing is given before. -/
theorem first_at_some_iff {α β : Type} (f : α → Option β) (xs : List α) (place : Nat) (b : β) :
    firstAt? f xs = some (place, b) ↔
      ∃ a, xs[place]? = some a ∧ f a = some b ∧
        ∀ other < place, ∀ c, xs[other]? = some c → f c = none := by
  simp only [firstAt?, Option.bind_eq_some_iff, Option.map_eq_some_iff, Prod.mk.injEq]
  constructor
  · rintro ⟨_, found, _, ⟨a, here, given⟩, rfl, rfl⟩
    obtain ⟨inside, some, first⟩ := List.findIdx?_eq_some_iff_getElem.mp found
    refine ⟨a, here, given, fun other less c there => ?_⟩
    obtain ⟨_, rfl⟩ := List.getElem?_eq_some_iff.mp there
    simpa using first other less
  · rintro ⟨a, here, given, earlier⟩
    obtain ⟨inside, rfl⟩ := List.getElem?_eq_some_iff.mp here
    refine ⟨place, List.findIdx?_eq_some_iff_getElem.mpr ⟨inside, by simp [given], ?_⟩, b,
      ⟨_, here, given⟩, rfl, rfl⟩
    intro other less
    simpa using earlier other less _ (List.getElem?_eq_getElem _)

/-- Nothing is found exactly if nothing is given anywhere. -/
theorem first_at_none_iff {α β : Type} (f : α → Option β) (xs : List α) :
    firstAt? f xs = none ↔ ∀ a ∈ xs, f a = none := by
  have nowhere : (xs.findIdx? fun a => (f a).isSome) = none ↔ ∀ a ∈ xs, f a = none := by
    simp [List.findIdx?_eq_none_iff]
  rw [← nowhere, firstAt?]
  cases found : xs.findIdx? fun a => (f a).isSome with
  | none => simp
  | some place =>
    obtain ⟨inside, given, -⟩ := List.findIdx?_eq_some_iff_getElem.mp found
    obtain ⟨b, given⟩ := Option.isSome_iff_exists.mp given
    simp [inside, given]

/-- What is found first is the same for functions that agree on the list. -/
theorem first_at_congr {α β : Type} (f g : α → Option β) (xs : List α)
    (same : ∀ a ∈ xs, f a = g a) : firstAt? f xs = firstAt? g xs := by
  apply Option.ext
  rintro ⟨place, b⟩
  rw [first_at_some_iff, first_at_some_iff]
  apply exists_congr
  intro a
  apply and_congr_right
  intro here
  rw [same a (List.mem_of_getElem? here)]
  apply and_congr_right
  intro _
  constructor
  · intro earlier other less c there
    rw [← same c (List.mem_of_getElem? there)]
    exact earlier other less c there
  · intro earlier other less c there
    rw [same c (List.mem_of_getElem? there)]
    exact earlier other less c there

section

variable (catalog : Catalog) (lookup : Lookup) (segment : String → Option Bool)

/-- Being right about the segment that a target names is being right about the target. -/
theorem inside_iff (target : Option Value)
    (right : ∀ key, target >>= Value.text? = some key → RightAbout catalog lookup segment key)
    (verdict : Bool) :
    Inside catalog lookup target verdict ↔ Criterion.inSegment segment target = verdict := by
  cases named : target >>= Value.text? with
  | none =>
    have nameless : ∀ v key, target = some v → v.payload ≠ .text key := by
      rintro v key rfl name
      have := (text_iff v key).mpr name
      simp_all
    have evaluated : Criterion.inSegment segment target = false := by
      simp [Criterion.inSegment, named]
    rw [evaluated]
    constructor
    · intro inside
      cases inside with
      | named name member => exact absurd name (nameless _ _ rfl)
      | nameless _ => rfl
    · rintro rfl
      exact .nameless nameless
  | some key =>
    obtain ⟨v, rfl, text⟩ := Option.bind_eq_some_iff.mp named
    have name := (text_iff v key).mp text
    have evaluated : Criterion.inSegment segment (some v) = (segment key == some true) := by
      simp [Criterion.inSegment, text]
    rw [evaluated, ← right key named verdict]
    constructor
    · intro inside
      cases inside with
      | named other member =>
        obtain rfl : key = _ := Payload.text.inj (name.symm.trans other)
        exact member
      | nameless none => exact absurd name (none v key rfl)
    · exact .named name

/-- Being right about the segment that a criterion names is being right about the criterion. -/
theorem judges_iff (c : Criterion)
    (right : ∀ key, c.segment? = some key → RightAbout catalog lookup segment key)
    (verdict : Bool) :
    Judges catalog lookup c verdict ↔ c.holds segment lookup = verdict := by
  by_cases within : c.operator = .inSegment
  · have target := inside_iff catalog lookup segment c.target
      (fun key named => right key (by simpa [Criterion.segment?, within] using named))
    have evaluated : c.holds segment lookup = Criterion.inSegment segment c.target := by
      simp [Criterion.holds, within]
    rw [evaluated, ← target]
    constructor
    · intro judges
      cases judges with
      | property notWithin _ _ => exact absurd within notWithin
      | inSegment _ inside => exact inside
      | notInSegment without _ => simp [within] at without
    · exact .inSegment within
  · by_cases without : c.operator = .notInSegment
    · have target := inside_iff catalog lookup segment c.target
        (fun key named => right key (by simpa [Criterion.segment?, without] using named))
      have evaluated : c.holds segment lookup = !Criterion.inSegment segment c.target := by
        simp [Criterion.holds, without]
      rw [evaluated]
      constructor
      · intro judges
        cases judges with
        | property _ notWithout _ => exact absurd without notWithout
        | inSegment within _ => simp [without] at within
        | notInSegment _ inside => rw [(target _).mp inside]
      · rintro rfl
        exact .notInSegment without ((target _).mpr rfl)
    · have table := holds_iff_demands segment lookup c within without
      constructor
      · intro judges
        cases judges with
        | property _ _ demanded =>
          rw [Bool.eq_iff_iff, table, demanded]
        | inSegment operator _ => exact absurd operator within
        | notInSegment operator _ => exact absurd operator without
      · rintro rfl
        exact .property within without table

/-- A rule is rejected exactly if it does not hold. -/
theorem rejects_iff (rule : Rule)
    (right : ∀ c ∈ rule.criteria, ∀ key, c.segment? = some key →
      RightAbout catalog lookup segment key) :
    Rejects catalog lookup rule ↔ rule.holds segment lookup = false := by
  rw [Rule.holds, List.all_eq_false]
  constructor
  · rintro ⟨among, judged⟩
    have fails := (judges_iff catalog lookup segment _ (right _ among) false).mp judged
    exact ⟨_, among, by simp [fails]⟩
  · rintro ⟨c, among, fails⟩
    exact .because among ((judges_iff catalog lookup segment c (right c among) false).mpr
      (by simpa using fails))

/-- All criteria of a rule hold exactly if it does. -/
theorem accepts_iff (rule : Rule)
    (right : ∀ c ∈ rule.criteria, ∀ key, c.segment? = some key →
      RightAbout catalog lookup segment key) :
    (∀ c ∈ rule.criteria, Judges catalog lookup c true) ↔ rule.holds segment lookup = true := by
  rw [Rule.holds, List.all_eq_true]
  exact forall₂_congr fun c among => judges_iff catalog lookup segment c (right c among) true

/-- The first rule of a row that holds, and its place. -/
def pick? (holds : Rule → Bool) (row : Row) : Option (Nat × Rule) :=
  firstAt? (Option.guard holds) row.rules

/-- A rule is picked exactly if it holds and none before it does. -/
theorem pick_some_iff (holds : Rule → Bool) (row : Row) (index : Nat) (rule : Rule) :
    pick? holds row = some (index, rule) ↔
      row.rules[index]? = some rule ∧ holds rule = true ∧
        ∀ other < index, ∀ r, row.rules[other]? = some r → holds r = false := by
  rw [pick?, first_at_some_iff]
  simp only [Option.guard_eq_some_iff, Option.guard_eq_none_iff]
  constructor
  · rintro ⟨_, place, ⟨rfl, held⟩, first⟩
    exact ⟨place, held, fun other less r here => by simpa using first other less r here⟩
  · rintro ⟨place, held, first⟩
    refine ⟨rule, place, ⟨rfl, held⟩, fun other less r here => ?_⟩
    simpa using first other less r here

/-- No rule is picked exactly if none holds. -/
theorem pick_none_iff (holds : Rule → Bool) (row : Row) :
    pick? holds row = none ↔ ∀ r ∈ row.rules, holds r = false := by
  simp [pick?, first_at_none_iff]

/-- What can be derived to be picked is what is picked. -/
theorem picks_iff (row : Row)
    (right : ∀ rule ∈ row.rules, ∀ c ∈ rule.criteria, ∀ key, c.segment? = some key →
      RightAbout catalog lookup segment key)
    (found : Option (Nat × Rule)) :
    Picks catalog lookup row found ↔ pick? (·.holds segment lookup) row = found := by
  have rejects : ∀ r ∈ row.rules,
      (Rejects catalog lookup r ↔ r.holds segment lookup = false) :=
    fun r member => rejects_iff catalog lookup segment r (right r member)
  cases found with
  | none =>
    rw [pick_none_iff]
    constructor
    · intro picks
      cases picks with
      | none all => exact fun r member => (rejects r member).mp (all r member)
    · exact fun all => .none fun r member => (rejects r member).mpr (all r member)
  | some choice =>
    obtain ⟨index, rule⟩ := choice
    rw [pick_some_iff]
    constructor
    · intro picks
      cases picks with
      | first place holds earlier =>
        have accepted := accepts_iff catalog lookup segment rule
          (right rule (List.mem_of_getElem? place))
        exact ⟨place, accepted.mp holds, fun other less r here =>
          (rejects r (List.mem_of_getElem? here)).mp (earlier other less r here)⟩
    · rintro ⟨place, holds, earlier⟩
      have accepted := accepts_iff catalog lookup segment rule
        (right rule (List.mem_of_getElem? place))
      exact .first place (accepted.mpr holds) fun other less r here =>
        (rejects r (List.mem_of_getElem? here)).mpr (earlier other less r here)

/-- The rows that are tried are the first one for the environment and the first one for none. -/
theorem rows_tried_eq (config : Config) (environment : Option Int64) :
    rowsTried environment config =
      (config.rowFor? environment).toList ++ config.fallbackRow?.toList := by
  have bound (row : Row) : (row.environment.isSome && row.environment == environment) =
      (environment.isSome && row.environment == environment) := by
    cases row.environment <;> cases environment <;> simp
  have own : (config.rows.filter fun row =>
      row.environment.isSome && row.environment == environment).take 1 =
        (config.rowFor? environment).toList := by
    simp only [bound, List.take_one, List.head?_filter, Config.rowFor?]
    cases environment <;> simp
  have fallback : (config.rows.filter fun row => row.environment == none).take 1 =
      config.fallbackRow?.toList := by
    simp [List.take_one, Config.fallbackRow?]
  rw [rowsTried, own, fallback]

/-- What a row selects is its pick, at the row's place. -/
theorem row_select_eq (holds : Rule → Bool) (place : Nat) (row : Row) :
    row.select? holds place =
      (pick? holds row).map fun choice =>
        { row := place, index := choice.1, rule := choice.2 } := by
  simp only [Row.select?, pick?, firstAt?, Option.isSome_guard, Option.bind_eq_bind]
  cases found : row.rules.findIdx? holds with
  | none => rfl
  | some index =>
    obtain ⟨inside, held, -⟩ := List.findIdx?_eq_some_iff_getElem.mp found
    simp [inside, held]

/-- A config is evaluated by the first pick among the rows that are tried. -/
theorem select_tried (config : Config) (environment : Option Int64) (holds : Rule → Bool) :
    config.select? environment holds =
      (firstAt? (pick? holds) (rowsTried environment config)).map fun found =>
        { row := found.1, index := found.2.1, rule := found.2.2 } := by
  rw [rows_tried_eq, Config.select?]
  cases config.rowFor? environment with
  | none =>
    cases config.fallbackRow? with
    | none => simp [firstAt?]
    | some fallback =>
      cases picked : pick? holds fallback <;> simp [firstAt?, row_select_eq, picked]
  | some own =>
    cases config.fallbackRow? with
    | none => cases picked : pick? holds own <;> simp [firstAt?, row_select_eq, picked]
    | some fallback =>
      cases first : pick? holds own <;> cases second : pick? holds fallback <;>
        simp [firstAt?, row_select_eq, first, second, List.findIdx?_cons]

/-- The rows that are tried are rows of the config. -/
theorem tried_mem (config : Config) (environment : Option Int64) (row : Row)
    (tried : row ∈ rowsTried environment config) : row ∈ config.rows := by
  rcases List.mem_append.mp tried with own | fallback
  · exact List.mem_of_mem_filter (List.mem_of_mem_take own)
  · exact List.mem_of_mem_filter (List.mem_of_mem_take fallback)

/-- What can be derived to be selected is what is selected, if the segments that the config names
are known. -/
theorem selects_iff (config : Config)
    (right : ∀ key ∈ config.segments, RightAbout catalog lookup segment key)
    (outcome : Option Selection) :
    Selects catalog lookup config outcome ↔
      config.select? catalog.environment (·.holds segment lookup) = outcome := by
  have picks : ∀ row ∈ rowsTried catalog.environment config, ∀ found,
      (Picks catalog lookup row found ↔ pick? (·.holds segment lookup) row = found) := by
    intro row tried
    refine picks_iff catalog lookup segment row ?_
    intro rule amongRules c amongCriteria key named
    refine right key ?_
    simp only [Config.segments, List.mem_flatMap, List.mem_filterMap]
    exact ⟨row, tried_mem config _ row tried, rule, amongRules, c, amongCriteria, named⟩
  rw [select_tried]
  cases outcome with
  | none =>
    rw [Option.map_eq_none_iff, first_at_none_iff]
    constructor
    · intro selects
      cases selects with
      | none all => exact fun row tried => (picks row tried none).mp (all row tried)
    · exact fun all => .none fun row tried => (picks row tried none).mpr (all row tried)
  | some selection =>
    rw [Option.map_eq_some_iff]
    constructor
    · intro selects
      cases selects with
      | @first _ place index row rule tried picked earlier =>
        refine ⟨(place, index, rule), (first_at_some_iff ..).mpr ⟨row, tried, ?_, ?_⟩, rfl⟩
        · exact (picks row (List.mem_of_getElem? tried) _).mp picked
        · exact fun other less r here =>
            (picks r (List.mem_of_getElem? here) none).mp (earlier other less r here)
    · rintro ⟨⟨place, index, rule⟩, found, rfl⟩
      obtain ⟨row, tried, picked, earlier⟩ := (first_at_some_iff ..).mp found
      exact .first tried ((picks row (List.mem_of_getElem? tried) _).mpr picked)
        fun other less r here =>
          (picks r (List.mem_of_getElem? here) none).mpr (earlier other less r here)

end

end LiveConfig.EvaluationAgreement
