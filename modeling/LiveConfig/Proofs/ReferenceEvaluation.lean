import LiveConfig.Evaluation
import Mathlib.Data.List.Basic

/-!
# Evaluation by rules of derivation

What a config serves, said without a limit and without saying how it is found: a selection is what
can be derived. Where segments name each other in a circle there may be nothing to derive.

What holds and what does not hold are both derived, so that a negation needs no more than any other
criterion: the outcome of what it negates. For the criteria on properties the rules are a table of
demands, and the lemmas below say that the tests of the model decide them.
-/

namespace LiveConfig

/-- The segment that a criterion names. -/
def Criterion.segment? (c : Criterion) : Option String :=
  match c.operator with
  | .inSegment | .notInSegment => c.target >>= Value.text?
  | _ => none

/-- The segments that a config names, in any of its rows. -/
def Config.segments (config : Config) : List String :=
  config.rows.flatMap fun row =>
    row.rules.flatMap fun rule => rule.criteria.filterMap Criterion.segment?

namespace ReferenceEvaluation

/-- A text property is related to one of the texts in a list. -/
def OneOf (related : String → String → Prop) (property target : Option Value) : Prop :=
  ∃ v w text texts, property = some v ∧ v.payload = .text text ∧ target = some w ∧
    w.payload = .texts texts ∧ ∃ other ∈ texts, related text other

/-- A text property starts with a text. -/
def Starts (property target : Option Value) : Prop :=
  ∃ v w text start, property = some v ∧ v.payload = .text text ∧ target = some w ∧
    w.payload = .text start ∧ start.toList <+: text.toList

/-- A number lies in a range, in which an absent bound is the least or the greatest integer. Doubles
are compared with the same bounds. -/
def InRange (property target : Option Value) : Prop :=
  ∃ v w range, property = some v ∧ target = some w ∧ w.payload = .range range ∧
    ((∃ n, v.payload = .int n ∧ range.lower.getD Int64.minValue ≤ n ∧
        n < range.upper.getD Int64.maxValue) ∨
      ∃ x, v.payload = .double x ∧ (range.lower.getD Int64.minValue).toFloat ≤ x.toFloat ∧
        x.toFloat < (range.upper.getD Int64.maxValue).toFloat)

/-- What a criterion demands of a property, by its operator. -/
def Demands (lookup : Lookup) (c : Criterion) : Prop :=
  match c.operator with
  | .unset | .inSegment | .notInSegment => False
  | .always => True
  | .isOneOf => OneOf (fun text other => text = other) (lookup c.property) c.target
  | .isNotOneOf => ¬OneOf (fun text other => text = other) (lookup c.property) c.target
  | .endsWithOneOf =>
    OneOf (fun text ending => ending.toList <:+ text.toList) (lookup c.property) c.target
  | .endsWithNoneOf =>
    ¬OneOf (fun text ending => ending.toList <:+ text.toList) (lookup c.property) c.target
  | .startsWith => Starts (lookup c.property) c.target
  | .inRange => InRange (lookup c.property) c.target

/-- The rows that are tried: the one for the environment, then the one for none. -/
def rowsTried (environment : Option Int64) (config : Config) : List Row :=
  (config.rows.filter fun row => row.environment.isSome && row.environment == environment).take 1 ++
    (config.rows.filter fun row => row.environment == none).take 1

mutual

/-- What a config selects: what the first of its rows picks that picks anything. -/
inductive Selects (catalog : Catalog) (lookup : Lookup) : Config → Option Selection → Prop
  | first {config : Config} {place index : Nat} {row : Row} {rule : Rule}
      (tried : (rowsTried catalog.environment config)[place]? = some row)
      (picked : Picks catalog lookup row (some (index, rule)))
      (earlier : ∀ other < place, ∀ r, (rowsTried catalog.environment config)[other]? = some r →
        Picks catalog lookup r none) :
      Selects catalog lookup config (some { row := place, index, rule })
  | none {config : Config}
      (all : ∀ row ∈ rowsTried catalog.environment config, Picks catalog lookup row none) :
      Selects catalog lookup config none

/-- The rule that a row picks: the first one whose criteria all hold. -/
inductive Picks (catalog : Catalog) (lookup : Lookup) : Row → Option (Nat × Rule) → Prop
  | first {row : Row} {index : Nat} {rule : Rule} (place : row.rules[index]? = some rule)
      (holds : ∀ c ∈ rule.criteria, Judges catalog lookup c true)
      (earlier : ∀ other < index, ∀ r, row.rules[other]? = some r → Rejects catalog lookup r) :
      Picks catalog lookup row (some (index, rule))
  | none {row : Row} (all : ∀ r ∈ row.rules, Rejects catalog lookup r) :
      Picks catalog lookup row none

/-- A rule is rejected because of one of its criteria. -/
inductive Rejects (catalog : Catalog) (lookup : Lookup) : Rule → Prop
  | because {rule : Rule} {c : Criterion} (among : c ∈ rule.criteria)
      (judged : Judges catalog lookup c false) : Rejects catalog lookup rule

/-- What a criterion comes to. -/
inductive Judges (catalog : Catalog) (lookup : Lookup) : Criterion → Bool → Prop
  | property {c : Criterion} {verdict : Bool} (within : c.operator ≠ .inSegment)
      (without : c.operator ≠ .notInSegment) (demanded : verdict = true ↔ Demands lookup c) :
      Judges catalog lookup c verdict
  | inSegment {c : Criterion} {verdict : Bool} (operator : c.operator = .inSegment)
      (inside : Inside catalog lookup c.target verdict) : Judges catalog lookup c verdict
  | notInSegment {c : Criterion} {verdict : Bool} (operator : c.operator = .notInSegment)
      (inside : Inside catalog lookup c.target verdict) : Judges catalog lookup c (!verdict)

/-- Whether the segment that a target names holds. A target without a name names none that does. -/
inductive Inside (catalog : Catalog) (lookup : Lookup) : Option Value → Bool → Prop
  | named {v : Value} {key : String} {verdict : Bool} (name : v.payload = .text key)
      (member : Member catalog lookup key verdict) : Inside catalog lookup (some v) verdict
  | nameless {target : Option Value} (name : ∀ v key, target = some v → v.payload ≠ .text key) :
      Inside catalog lookup target false

/-- Whether a segment holds: whether its config selects the truth value true. -/
inductive Member (catalog : Catalog) (lookup : Lookup) : String → Bool → Prop
  | holds {key : String} {config : Config} {selection : Selection}
      (stored : catalog.config? key = some config)
      (selects : Selects catalog lookup config (some selection))
      (value : selection.rule.value.payload = .bool true) : Member catalog lookup key true
  | fails {key : String} {config : Config} {outcome : Option Selection}
      (stored : catalog.config? key = some config)
      (selects : Selects catalog lookup config outcome)
      (value : ∀ selection, outcome = some selection →
        selection.rule.value.payload ≠ .bool true) : Member catalog lookup key false
  | missing {key : String} (absent : catalog.config? key = none) : Member catalog lookup key false

end

/-- A value holds a text exactly if that is its payload. -/
theorem text_iff (v : Value) (text : String) : v.text? = some text ↔ v.payload = .text text := by
  unfold Value.text?
  cases v.payload <;> simp

/-- A value holds a list of texts exactly if that is its payload. -/
theorem texts_iff (v : Value) (texts : List String) :
    v.texts? = some texts ↔ v.payload = .texts texts := by
  unfold Value.texts?
  cases v.payload <;> simp

/-- A value holds a range exactly if that is its payload. -/
theorem range_iff (v : Value) (range : IntRange) :
    v.range? = some range ↔ v.payload = .range range := by
  unfold Value.range?
  cases v.payload <;> simp

/-- A value holds a truth value exactly if that is its payload. -/
theorem bool_iff (v : Value) (b : Bool) : v.bool? = some b ↔ v.payload = .bool b := by
  unfold Value.bool?
  cases v.payload <;> simp

/-- A comparison of texts holds where the relation that it decides holds of a text property and one
of the target's texts. -/
theorem compare_texts_iff (related : String → String → Prop) (test : String → String → Bool)
    (decides : ∀ text other, test text other = true ↔ related text other)
    (property target : Option Value) :
    (Criterion.compareTexts test property target).getD false = true ↔
      OneOf related property target := by
  constructor
  · intro found
    cases compared : Criterion.compareTexts test property target with
    | none => simp [compared] at found
    | some verdict =>
      obtain rfl : verdict = true := by simpa [compared] using found
      simp only [Criterion.compareTexts, Option.bind_eq_bind, Option.bind_eq_some_iff,
        Option.some.injEq, List.any_eq_true, text_iff, texts_iff] at compared
      obtain ⟨text, ⟨v, isProperty, isText⟩, texts, ⟨w, isTarget, isTexts⟩, other, among, holds⟩ :=
        compared
      exact ⟨v, w, text, texts, isProperty, isText, isTarget, isTexts, other, among,
        (decides text other).mp holds⟩
  · rintro ⟨v, w, text, texts, rfl, isText, rfl, isTexts, other, among, holds⟩
    have some : texts.any (test text) = true :=
      List.any_eq_true.mpr ⟨other, among, (decides text other).mpr holds⟩
    simp [Criterion.compareTexts, (text_iff v text).mpr isText, (texts_iff w texts).mpr isTexts,
      some]

/-- The test for a start holds where a text property starts with the target. -/
theorem starts_with_iff (property target : Option Value) :
    Criterion.startsWith property target = true ↔ Starts property target := by
  constructor
  · intro found
    unfold Criterion.startsWith at found
    split at found
    · next text start isText isStart =>
      obtain ⟨v, isProperty, isText⟩ := Option.bind_eq_some_iff.mp isText
      obtain ⟨w, isTarget, isStart⟩ := Option.bind_eq_some_iff.mp isStart
      exact ⟨v, w, text, start, isProperty, (text_iff v text).mp isText, isTarget,
        (text_iff w start).mp isStart, List.isPrefixOf_iff_prefix.mp found⟩
    · contradiction
  · rintro ⟨v, w, text, start, rfl, isText, rfl, isStart, leads⟩
    simp [Criterion.startsWith, (text_iff v text).mpr isText, (text_iff w start).mpr isStart, leads]

/-- The test for a range holds where a number lies in it. -/
theorem in_range_iff (property target : Option Value) :
    Criterion.inRange property target = true ↔ InRange property target := by
  constructor
  · intro found
    unfold Criterion.inRange at found
    split at found
    · next range n isRange isNumber =>
      obtain ⟨w, isTarget, isRange⟩ := Option.bind_eq_some_iff.mp isRange
      obtain ⟨v, isProperty, isNumber⟩ := Option.map_eq_some_iff.mp isNumber
      rw [IntRange.holdsInt, Bool.and_eq_true, decide_eq_true_iff, decide_eq_true_iff] at found
      exact ⟨v, w, range, isProperty, isTarget, (range_iff w range).mp isRange,
        Or.inl ⟨n, isNumber, found⟩⟩
    · next range x isRange isNumber =>
      obtain ⟨w, isTarget, isRange⟩ := Option.bind_eq_some_iff.mp isRange
      obtain ⟨v, isProperty, isNumber⟩ := Option.map_eq_some_iff.mp isNumber
      rw [IntRange.holdsFloat, Bool.and_eq_true, decide_eq_true_iff, decide_eq_true_iff] at found
      exact ⟨v, w, range, isProperty, isTarget, (range_iff w range).mp isRange,
        Or.inr ⟨x, isNumber, found⟩⟩
    · contradiction
  · rintro ⟨v, w, range, rfl, rfl, isRange, whole | broken⟩
    · obtain ⟨n, isNumber, lower, upper⟩ := whole
      simp [Criterion.inRange, (range_iff w range).mpr isRange, isNumber, IntRange.holdsInt,
        IntRange.first, IntRange.stop, lower, upper]
    · obtain ⟨x, isNumber, lower, upper⟩ := broken
      simp [Criterion.inRange, (range_iff w range).mpr isRange, isNumber, IntRange.holdsFloat,
        IntRange.first, IntRange.stop, lower, upper]

/-- A criterion on a property holds where its operator's demand is met. -/
theorem holds_iff_demands (segment : String → Option Bool) (lookup : Lookup) (c : Criterion)
    (within : c.operator ≠ .inSegment) (without : c.operator ≠ .notInSegment) :
    c.holds segment lookup = true ↔ Demands lookup c := by
  have equal : Criterion.isOneOf (lookup c.property) c.target = true ↔
      OneOf (fun text other => text = other) (lookup c.property) c.target :=
    compare_texts_iff _ _ (fun text other => by rw [beq_iff_eq, eq_comm]) _ _
  have ends : Criterion.endsWithOneOf (lookup c.property) c.target = true ↔
      OneOf (fun text ending => ending.toList <:+ text.toList) (lookup c.property) c.target :=
    compare_texts_iff _ _ (fun text ending => List.isSuffixOf_iff_suffix) _ _
  cases operator : c.operator with
  | unset => simp [Criterion.holds, Demands, operator]
  | always => simp [Criterion.holds, Demands, operator]
  | isOneOf => simpa [Criterion.holds, Demands, operator] using equal
  | isNotOneOf => simpa [Criterion.holds, Demands, operator] using not_congr equal
  | endsWithOneOf => simpa [Criterion.holds, Demands, operator] using ends
  | endsWithNoneOf => simpa [Criterion.holds, Demands, operator] using not_congr ends
  | startsWith => simpa [Criterion.holds, Demands, operator] using starts_with_iff _ _
  | inRange => simpa [Criterion.holds, Demands, operator] using in_range_iff _ _
  | inSegment => exact absurd operator within
  | notInSegment => exact absurd operator without

end ReferenceEvaluation

end LiveConfig
