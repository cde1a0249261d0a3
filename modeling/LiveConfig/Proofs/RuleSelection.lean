import LiveConfig.Proofs.LayeredStores

/-!
# Which rule is selected

A config has at most two rows that matter to a catalog: the first one that is bound to the catalog's
environment, its own row, and the first one that is bound to none, the fallback. What is selected is
the first rule of the own row whose criteria all hold, or else the first such rule of the fallback.
Its row is reported as 1 where it stands behind an own row, even one without such a rule.

`SelectedBy` says this without a search, and the lemmas below show that searching decides it: first
for a row, then for a config. Since a config is selected from by its first rows only, all others may
be exchanged in a whole catalog, also in the configs that serve as segments; there the induction is
on the depth to which segments nest.
-/

namespace LiveConfig

namespace Config

/-- A row is the first one of a config that is bound to an environment, or the first one that is
bound to none. -/
def FirstRow (config : Config) (environment : Option Int64) (row : Row) : Prop :=
  ∃ before after, config.rows = before ++ row :: after ∧ row.environment = environment ∧
    ∀ other ∈ before, other.environment ≠ environment

/-- Two configs have the same first row for an environment, if one is given, and for none. They
may differ in rows for other environments, and in any rows behind those two. -/
structure SameRows (environment : Option Int64) (config other : Config) : Prop where
  own : ∀ e row, environment = some e → (other.FirstRow (some e) row ↔ config.FirstRow (some e) row)
  fallback : ∀ row, other.FirstRow none row ↔ config.FirstRow none row

/-- Searching the rows of a config from the front finds the first one. -/
theorem find?_iff_first (config : Config) (environment : Option Int64) (row : Row) :
    config.rows.find? (·.environment == environment) = some row ↔
      config.FirstRow environment row := by
  simp only [List.find?_eq_some_iff_append, FirstRow, beq_iff_eq]
  constructor
  · rintro ⟨bound, before, after, split, earlier⟩
    refine ⟨before, after, split, bound, ?_⟩
    intro other member same
    simpa [same] using earlier other member
  · rintro ⟨before, after, split, bound, earlier⟩
    refine ⟨bound, before, after, split, ?_⟩
    intro other member
    simpa using earlier other member

/-- The row for an environment is the first one that is bound to it. -/
theorem rowFor?_eq_some_iff (config : Config) (e : Int64) (row : Row) :
    config.rowFor? (some e) = some row ↔ config.FirstRow (some e) row :=
  config.find?_iff_first (some e) row

/-- The fallback is the first row that is bound to no environment. -/
theorem fallbackRow?_eq_some_iff (config : Config) (row : Row) :
    config.fallbackRow? = some row ↔ config.FirstRow none row := by
  have unbound : (fun row : Row => row.environment.isNone) =
      fun row => row.environment == none := by
    funext row
    cases row.environment <;> rfl
  rw [fallbackRow?, unbound, find?_iff_first]

/-- Configs with the same first rows are selected from alike. -/
theorem SameRows.select?_eq {environment : Option Int64} {config other : Config}
    (same : SameRows environment config other) (holds : Rule → Bool) :
    other.select? environment holds = config.select? environment holds := by
  have own : other.rowFor? environment = config.rowFor? environment := by
    cases bound : environment with
    | none => rfl
    | some e =>
      apply Option.ext
      intro row
      rw [rowFor?_eq_some_iff, rowFor?_eq_some_iff]
      exact same.own e row bound
  have fallback : other.fallbackRow? = config.fallbackRow? := by
    apply Option.ext
    intro row
    rw [fallbackRow?_eq_some_iff, fallbackRow?_eq_some_iff]
    exact same.fallback row
  rw [select?, select?, own, fallback]

/-- A config without the rows that are not tried. -/
def trim (environment : Option Int64) (config : Config) : Config :=
  { config with rows := ReferenceEvaluation.rowsTried environment config }

/-- The rows that are not tried are not first ones. -/
theorem sameRows_trim (environment : Option Int64) (config : Config) :
    config.SameRows environment (config.trim environment) := by
  have rows : (config.trim environment).rows =
      (config.rowFor? environment).toList ++ config.fallbackRow?.toList :=
    EvaluationAgreement.rows_tried_eq config environment
  constructor
  · rintro e row rfl
    rw [← rowFor?_eq_some_iff, ← rowFor?_eq_some_iff]
    suffices same : (config.trim (some e)).rowFor? (some e) = config.rowFor? (some e) by rw [same]
    cases own : config.rowFor? (some e) with
    | none =>
      rw [rowFor?, Option.bind_some, rows, own, Option.toList_none, List.nil_append,
        List.find?_eq_none]
      intro row fallback
      obtain ⟨_, _, -, unbound, -⟩ :=
        (config.fallbackRow?_eq_some_iff row).mp (Option.mem_toList.mp fallback)
      simp [unbound]
    | some row =>
      obtain ⟨_, _, -, bound, -⟩ := (config.rowFor?_eq_some_iff e row).mp own
      rw [rowFor?, Option.bind_some, rows, own]
      simp [bound]
  · intro row
    rw [← fallbackRow?_eq_some_iff, ← fallbackRow?_eq_some_iff]
    suffices same : (config.trim environment).fallbackRow? = config.fallbackRow? by rw [same]
    have skipped : (config.rowFor? environment).toList.find? (·.environment.isNone) = none := by
      rw [List.find?_eq_none]
      intro row own
      cases environment with
      | none => simp [rowFor?] at own
      | some e =>
        obtain ⟨_, _, -, bound, -⟩ :=
          (config.rowFor?_eq_some_iff e row).mp (Option.mem_toList.mp own)
        simp [bound]
    rw [fallbackRow?, rows, List.find?_append, skipped, Option.none_or]
    cases fallback : config.fallbackRow? with
    | none => rfl
    | some row =>
      obtain ⟨_, _, -, unbound, -⟩ := (config.fallbackRow?_eq_some_iff row).mp fallback
      simp [unbound]

end Config

namespace Catalog

variable (catalog : Catalog) (depth : Nat) (lookup : Lookup)

/-- A row is a config's own in a catalog that is bound to an environment: the first one for it. -/
def OwnRow (config : Config) (row : Row) : Prop :=
  ∃ e, catalog.environment = some e ∧ config.FirstRow (some e) row

/-- All criteria of a rule hold. -/
def Satisfied (rule : Rule) : Prop :=
  ∀ c ∈ rule.criteria, catalog.criterionHolds depth lookup c = true

/-- A rule is the first one of a row whose criteria all hold, and stands at an index in it. -/
def FirstSatisfied (row : Row) (index : Nat) (rule : Rule) : Prop :=
  row.rules[index]? = some rule ∧ catalog.Satisfied depth lookup rule ∧
    ∀ earlier < index, ∀ other, row.rules[earlier]? = some other →
      ¬catalog.Satisfied depth lookup other

/-- What is selected from a config, by the rows that it has. -/
inductive SelectedBy (config : Config) : Selection → Prop
  /-- The first rule of the own row that is satisfied. -/
  | own {row : Row} {index : Nat} {rule : Rule} (own : catalog.OwnRow config row)
      (first : catalog.FirstSatisfied depth lookup row index rule) :
      SelectedBy config { row := 0, index, rule }
  /-- The first rule of the fallback that is satisfied, where the own row has none. -/
  | afterOwn {own row : Row} {index : Nat} {rule : Rule} (isOwn : catalog.OwnRow config own)
      (unsatisfied : ∀ rule ∈ own.rules, ¬catalog.Satisfied depth lookup rule)
      (fallback : config.FirstRow none row)
      (first : catalog.FirstSatisfied depth lookup row index rule) :
      SelectedBy config { row := 1, index, rule }
  /-- The first rule of the fallback that is satisfied, where there is no own row. -/
  | withoutOwn {row : Row} {index : Nat} {rule : Rule} (ownless : ∀ own, ¬catalog.OwnRow config own)
      (fallback : config.FirstRow none row)
      (first : catalog.FirstSatisfied depth lookup row index rule) :
      SelectedBy config { row := 0, index, rule }

/-- A rule holds exactly if it is satisfied. -/
theorem holds_iff_satisfied (rule : Rule) :
    rule.holds (catalog.segment lookup depth) lookup = true ↔
      catalog.Satisfied depth lookup rule := by
  rw [Rule.holds, List.all_eq_true]
  rfl

/-- A rule does not hold exactly if it is not satisfied. -/
theorem fails_iff_unsatisfied (rule : Rule) :
    rule.holds (catalog.segment lookup depth) lookup = false ↔
      ¬catalog.Satisfied depth lookup rule := by
  rw [← holds_iff_satisfied, Bool.not_eq_true]

/-- A row selects the first of its rules that is satisfied, and reports the place it is given. -/
theorem row_selects_iff (row : Row) (place : Nat) (found : Selection) :
    row.select? (·.holds (catalog.segment lookup depth) lookup) place = some found ↔
      found.row = place ∧ catalog.FirstSatisfied depth lookup row found.index found.rule := by
  rw [EvaluationAgreement.row_select_eq, Option.map_eq_some_iff]
  simp only [FirstSatisfied, ← holds_iff_satisfied, Bool.not_eq_true]
  constructor
  · rintro ⟨⟨index, rule⟩, picked, rfl⟩
    exact ⟨rfl, (EvaluationAgreement.pick_some_iff _ row index rule).mp picked⟩
  · rintro ⟨rfl, first⟩
    exact ⟨(found.index, found.rule), (EvaluationAgreement.pick_some_iff ..).mpr first, rfl⟩

/-- A row selects nothing exactly if none of its rules is satisfied. -/
theorem row_selects_none_iff (row : Row) (place : Nat) :
    row.select? (·.holds (catalog.segment lookup depth) lookup) place = none ↔
      ∀ rule ∈ row.rules, ¬catalog.Satisfied depth lookup rule := by
  rw [EvaluationAgreement.row_select_eq, Option.map_eq_none_iff, EvaluationAgreement.pick_none_iff]
  exact forall₂_congr fun rule _ => catalog.fails_iff_unsatisfied depth lookup rule

/-- The row that is tried first is the own row. -/
theorem rowFor?_iff_own (config : Config) (row : Row) :
    config.rowFor? catalog.environment = some row ↔ catalog.OwnRow config row := by
  cases bound : catalog.environment with
  | none => simp [OwnRow, Config.rowFor?, bound]
  | some e => simp [OwnRow, bound, config.rowFor?_eq_some_iff e row]

/-- There is one own row at most. -/
theorem OwnRow.unique {catalog : Catalog} {config : Config} {row other : Row}
    (own : catalog.OwnRow config row) (ownOther : catalog.OwnRow config other) : row = other := by
  rw [← rowFor?_iff_own] at own ownOther
  exact Option.some.inj (own.symm.trans ownOther)

/-- What is selected from a config is what its rows say. -/
theorem evaluate_iff_selected (config : Config) (found : Selection) :
    catalog.evaluate depth lookup config = some found ↔
      catalog.SelectedBy depth lookup config found := by
  rw [evaluate, Config.select?]
  cases tried : config.rowFor? catalog.environment with
  | none =>
    have ownless : ∀ own, ¬catalog.OwnRow config own := by
      intro own isOwn
      rw [← rowFor?_iff_own, tried] at isOwn
      contradiction
    simp only [Option.bind_eq_bind, Option.bind_eq_some_iff, config.fallbackRow?_eq_some_iff,
      row_selects_iff]
    constructor
    · rintro ⟨row, fallback, place, first⟩
      obtain ⟨_, index, rule⟩ := found
      obtain rfl : _ = 0 := place
      exact .withoutOwn ownless fallback first
    · intro selected
      cases selected with
      | own own _ => exact absurd own (ownless _)
      | afterOwn own _ _ _ => exact absurd own (ownless _)
      | withoutOwn _ fallback first => exact ⟨_, fallback, rfl, first⟩
  | some own =>
    have isOwn : catalog.OwnRow config own := (catalog.rowFor?_iff_own config own).mp tried
    simp only [Option.orElse_eq_orElse, Option.orElse_eq_or, Option.or_eq_some_iff,
      Option.bind_eq_bind, Option.bind_eq_some_iff, config.fallbackRow?_eq_some_iff,
      row_selects_iff, row_selects_none_iff]
    constructor
    · obtain ⟨_, index, rule⟩ := found
      rintro (⟨place, first⟩ | ⟨unsatisfied, row, fallback, place, first⟩)
      · obtain rfl : _ = 0 := place
        exact .own isOwn first
      · obtain rfl : _ = 1 := place
        exact .afterOwn isOwn unsatisfied fallback first
    · intro selected
      cases selected with
      | own other first =>
        obtain rfl := isOwn.unique other
        exact .inl ⟨rfl, first⟩
      | afterOwn other unsatisfied fallback first =>
        obtain rfl := isOwn.unique other
        exact .inr ⟨unsatisfied, _, fallback, rfl, first⟩
      | withoutOwn ownless _ _ => exact absurd isOwn (ownless own)

/-- The rows that are tried are the own row and the fallback. -/
theorem mem_tried_iff (config : Config) (row : Row) :
    row ∈ ReferenceEvaluation.rowsTried catalog.environment config ↔
      catalog.OwnRow config row ∨ config.FirstRow none row := by
  rw [EvaluationAgreement.rows_tried_eq, List.mem_append, Option.mem_toList, Option.mem_toList,
    rowFor?_iff_own, config.fallbackRow?_eq_some_iff]

/-- Something is selected from a config exactly if some rule of its own row or of its fallback is
satisfied. -/
theorem evaluate_isSome_iff (config : Config) :
    (catalog.evaluate depth lookup config).isSome = true ↔
      ∃ row, (catalog.OwnRow config row ∨ config.FirstRow none row) ∧
        ∃ rule ∈ row.rules, catalog.Satisfied depth lookup rule := by
  have nothing : catalog.evaluate depth lookup config = none ↔
      ∀ row, catalog.OwnRow config row ∨ config.FirstRow none row →
        ∀ rule ∈ row.rules, ¬catalog.Satisfied depth lookup rule := by
    rw [evaluate, EvaluationAgreement.select_tried, Option.map_eq_none_iff,
      EvaluationAgreement.first_at_none_iff]
    simp only [EvaluationAgreement.pick_none_iff, fails_iff_unsatisfied, mem_tried_iff]
  rw [Option.isSome_iff_ne_none, ne_eq, nothing]
  push Not
  rfl

/-- Two catalogs are bound to one environment, hold the same keys, and their configs have the same
first rows for that environment and for none. -/
structure SameRows (catalog other : Catalog) : Prop where
  environment : other.environment = catalog.environment
  configs : ∀ key,
    Option.Rel (Config.SameRows catalog.environment) (catalog.config? key) (other.config? key)

variable {catalog} in
/-- In catalogs with the same first rows segments serve the same at every depth. -/
theorem SameRows.segment_eq {other : Catalog} (same : catalog.SameRows other) (depth : Nat) :
    other.segment lookup depth = catalog.segment lookup depth := by
  induction depth with
  | zero => rfl
  | succ depth inductionHypothesis =>
    funext key
    rw [segment, segment, inductionHypothesis, same.environment]
    have configs := same.configs key
    cases stored : catalog.config? key with
    | none =>
      rw [stored] at configs
      cases storedOther : other.config? key with
      | none => rfl
      | some _ => simp [storedOther] at configs
    | some config =>
      rw [stored] at configs
      cases storedOther : other.config? key with
      | none => simp [storedOther] at configs
      | some config' =>
        rw [storedOther, Option.rel_some_some] at configs
        simp only [Option.bind_eq_bind, Option.bind_some, configs.select?_eq]

variable {catalog} in
/-- In catalogs with the same first rows the same is selected from configs with the same first
rows. -/
theorem SameRows.evaluate_eq {other : Catalog} (same : catalog.SameRows other)
    {config config' : Config} (rows : config.SameRows catalog.environment config') :
    other.evaluate depth lookup config' = catalog.evaluate depth lookup config := by
  rw [evaluate, evaluate, same.environment, same.segment_eq]
  exact rows.select?_eq _

end Catalog

namespace Resolver

variable (r : Resolver) (context : Context) (key : String)

/-- What a resolution says of the rule that was selected: it is the rule that its config is
evaluated by, an arm is named exactly if that rule's value is a split, and without a rule there is
neither an arm nor a value. -/
structure Reports (resolution : Resolution) : Prop where
  stored : r.catalog.config? key = some resolution.config
  selection : resolution.selection =
    r.catalog.evaluate r.depth (r.lookup context) resolution.config
  arm : resolution.arm.isSome = true ↔
    ∃ found s, resolution.selection = some found ∧ found.rule.value.payload = .split s
  unmatched : resolution.selection = none → resolution.arm = none ∧ resolution.value = none

/-- An arm is named exactly if a split is decided. -/
theorem choose_arm_iff (selected value : Value) (arm : Option Nat)
    (chosen : r.choose context key selected = .ok (arm, value)) :
    arm.isSome = true ↔ ∃ s, selected.payload = .split s := by
  simp only [← Value.split_iff]
  unfold choose at chosen
  cases split : selected.split? with
  | none =>
    simp only [split, Except.ok.injEq, Prod.mk.injEq] at chosen
    simp [← chosen.1]
  | some s =>
    simp only [split] at chosen
    cases picked : s.pick? key (r.lookup context) (r.chance 0) with
    | none => simp [picked] at chosen
    | some choice =>
      simp only [picked, Except.ok.injEq, Prod.mk.injEq] at chosen
      simp [← chosen.1]

/-- Every resolution reports the rule that its config is evaluated by. -/
theorem resolve_reports (resolution : Resolution)
    (resolved : r.resolve context key = .ok resolution) :
    r.Reports context key resolution := by
  have selection := r.resolve_selection context key resolution resolved
  have course := r.resolveWith_course context key (openerAt context r.depth r key)
  rw [← resolveAt_eq, ← resolve, resolved] at course
  generalize outcome : Except.ok (ε := ConfigError) resolution = result at course
  cases course with
  | missing absent => cases outcome
  | unmatched config held none =>
    obtain rfl := Except.ok.inj outcome
    exact {
      stored := held
      selection := by simpa [selection?, held] using selection
      arm := by simp
      unmatched := fun _ => ⟨rfl, rfl⟩ }
  | undecided selected serves cause stuck => cases outcome
  | decided config held found serves arm value chosen =>
    obtain ⟨settled, done, rfl⟩ := (Outcome.map_ok_iff ..).mp outcome.symm
    exact {
      stored := held
      selection := by simpa [selection?, held] using selection
      arm := by simpa using r.choose_arm_iff context key _ value arm chosen
      unmatched := fun absent => by simp at absent }

end Resolver

namespace Catalog

/-- A catalog whose configs are without the rows that are not tried. -/
def trim (catalog : Catalog) : Catalog :=
  { catalog with config? := fun key => (catalog.config? key).map (Config.trim catalog.environment) }

/-- Dropping the rows that are not tried leaves the first rows of every config. -/
theorem sameRows_trim (catalog : Catalog) : catalog.SameRows catalog.trim := by
  refine ⟨rfl, fun key => ?_⟩
  cases stored : catalog.config? key with
  | none => simp [trim, stored]
  | some config => simpa [trim, stored] using config.sameRows_trim catalog.environment

end Catalog

/-- A config selects a rule exactly if its own row or its fallback has a rule whose criteria all
hold, and then it selects the first such rule of the own row if there is one, else the first such
rule of the fallback. Other rows play no part, in the config as in those that serve as segments, and
a resolution reports what is selected with the arm of a split. -/
theorem first_satisfied_rule_selected :
    (∀ (catalog : Catalog) (depth : Nat) (lookup : Lookup) (config : Config),
      ((catalog.evaluate depth lookup config).isSome = true ↔
        ∃ row, (catalog.OwnRow config row ∨ config.FirstRow none row) ∧
          ∃ rule ∈ row.rules, catalog.Satisfied depth lookup rule) ∧
      (∀ found, catalog.evaluate depth lookup config = some found ↔
        catalog.SelectedBy depth lookup config found) ∧
      ∀ (other : Catalog) (config' : Config), catalog.SameRows other →
        config.SameRows catalog.environment config' →
        other.evaluate depth lookup config' = catalog.evaluate depth lookup config) ∧
    ∀ (r : Resolver) (context : Context) (key : String) (resolution : Resolution),
      r.resolve context key = .ok resolution → r.Reports context key resolution := by
  constructor
  · intro catalog depth lookup config
    refine ⟨catalog.evaluate_isSome_iff depth lookup config,
      catalog.evaluate_iff_selected depth lookup config, ?_⟩
    intro other config' same rows
    exact same.evaluate_eq depth lookup rows
  · intro r context key resolution resolved
    exact r.resolve_reports context key resolution resolved

/-- A rule that always serves a split of one arm. -/
def anyArm : Rule where
  value := { payload := .split { arms := [⟨1, { payload := .text "any" }⟩] } }

/-- A config with a row for another environment, one for the environment 2 that has no rule whose
criteria hold, another one for 2 that comes too late, and a split for all environments. -/
def staged : Config where
  key := "k"
  rows :=
    [{ environment := some 1, rules := [{ value := { payload := .text "other" } }] },
      { environment := some 2,
        rules := [{ criteria := [{ operator := .unset }], value := { payload := .text "own" } }] },
      { environment := some 2, rules := [{ value := { payload := .text "late" } }] },
      { rules := [{ criteria := [{ operator := .inSegment }], value := { payload := .text "in" } },
        anyArm] }]

/-- A catalog of that config, bound to the environment 2. -/
def stagedCatalog : Catalog :=
  (Store.ofConfigs [staged] (some 2)).catalog

/-- The split behind the row for 2 is selected and reported as row 1, with or without the rows that
are not tried, and a resolution names an arm. -/
theorem fallback_split_selected :
    (∃ found, stagedCatalog.SelectedBy 16 (fun _ => none) staged found ∧
      (found.row, found.index) = (1, 1) ∧
      stagedCatalog.trim.evaluate 16 (fun _ => none) (staged.trim (some 2)) = some found) ∧
    ∃ resolution, Resolver.resolve { catalog := stagedCatalog } ∅ "k" = .ok resolution ∧
      Resolver.Reports { catalog := stagedCatalog } ∅ "k" resolution := by
  obtain ⟨evaluation, resolutions⟩ := first_satisfied_rule_selected
  obtain ⟨-, selected, unchanged⟩ := evaluation stagedCatalog 16 (fun _ => none) staged
  constructor
  · have matched : stagedCatalog.evaluate 16 (fun _ => none) staged =
        some { row := 1, index := 1, rule := anyArm } := rfl
    refine ⟨_, (selected _).mp matched, rfl, ?_⟩
    rw [← matched]
    exact unchanged stagedCatalog.trim _ stagedCatalog.sameRows_trim
      (staged.sameRows_trim (some 2))
  · cases outcome : Resolver.resolve { catalog := stagedCatalog } ∅ "k" with
    | ok resolution => exact ⟨resolution, rfl, resolutions _ _ _ resolution outcome⟩
    | error error =>
      have resolves :
          (Resolver.resolve { catalog := stagedCatalog } ∅ "k").isOk = true := by
        decide +kernel
      rw [outcome] at resolves
      contradiction

end LiveConfig
