import LiveConfig.Proofs.Outcome
import LiveConfig.Proofs.ReferenceEvaluation
import LiveConfig.Proofs.ResolutionCourse

/-!
# Targets of criteria

A document builds the target of a criterion from the texts that are listed, and evaluation reads a
target of one type, each by the operator. The two agree for every operator but the one for ranges,
for which a list of texts is built: such a criterion is accepted, and holds for no context. A target
of another type than the one that is read leaves nothing to the context, whatever the operator; with
a target of the right type it is the context that decides.
-/

namespace LiveConfig

/-- The type of target that the test of an operator reads, if it reads one. -/
def Operator.reads? : Operator → Option ValueType
  | .unset | .always => none
  | .isOneOf | .isNotOneOf | .endsWithOneOf | .endsWithNoneOf => some .texts
  | .startsWith | .inSegment | .notInSegment => some .text
  | .inRange => some .range

/-- Whether an operator holds where its test fails. -/
def Operator.negates : Operator → Bool
  | .isNotOneOf | .endsWithNoneOf | .notInSegment => true
  | _ => false

namespace Criterion

/-- The target of a criterion is of the type that is read, and missing if none is. -/
def Typed (c : Criterion) : Prop :=
  c.target.map (·.payload.valueType) = c.operator.reads?

/-- The criterion comes to one outcome, whatever is known and whatever segments there are. -/
def Settled (c : Criterion) (outcome : Bool) : Prop :=
  ∀ (catalog : Catalog) (depth : Nat) (lookup : Lookup),
    catalog.criterionHolds depth lookup c = outcome

/-- There is a context for which the criterion holds, and one for which it does not. -/
def Varies (c : Criterion) : Prop :=
  ∃ (catalog : Catalog) (depth : Nat) (context other : Context),
    catalog.criterionHolds depth (.first [context.property?, catalog.defaults]) c = true ∧
    catalog.criterionHolds depth (.first [other.property?, catalog.defaults]) c = false

/-- What reads values of one type reads no target of another. -/
theorem unread {α : Type} (read : Value → Option α) (t : ValueType)
    (reads : ∀ v a, read v = some a → v.payload.valueType = t) (target : Option Value)
    (mistyped : target.map (·.payload.valueType) ≠ some t) : target >>= read = none := by
  cases target with
  | none => rfl
  | some v =>
    cases found : read v with
    | none => exact found
    | some a => exact absurd (congrArg some (reads v a found)) mistyped

/-- A comparison with texts gives no answer if the target is no list of texts. -/
theorem compareTexts_unread (test : String → String → Bool) (property target : Option Value)
    (mistyped : target.map (·.payload.valueType) ≠ some .texts) :
    compareTexts test property target = none := by
  have texts := unread Value.texts? .texts
    (fun v list found => by rw [(ReferenceEvaluation.texts_iff v list).mp found]; rfl) target
    mistyped
  simp [compareTexts, texts]

/-- A criterion whose target is not of the type that is read comes to one outcome: a test fails,
and a negated test holds. -/
theorem settled_of_mistyped (c : Criterion) (mistyped : ¬ c.Typed)
    (reads : c.operator.reads? ≠ none) : c.Settled c.operator.negates := by
  unfold Typed at mistyped
  have compared (texts : c.operator.reads? = some .texts) (test : String → String → Bool)
      (property : Option Value) : compareTexts test property c.target = none :=
    compareTexts_unread test property c.target (texts ▸ mistyped)
  have named (text : c.operator.reads? = some .text) : c.target >>= Value.text? = none :=
    unread Value.text? .text
      (fun v s found => by rw [(ReferenceEvaluation.text_iff v s).mp found]; rfl) c.target
      (text ▸ mistyped)
  have ranged (range : c.operator.reads? = some .range) : c.target >>= Value.range? = none :=
    unread Value.range? .range
      (fun v r found => by rw [(ReferenceEvaluation.range_iff v r).mp found]; rfl) c.target
      (range ▸ mistyped)
  intro catalog depth lookup
  rw [Catalog.criterionHolds, holds]
  cases operator : c.operator with
  | unset | always => simp [operator, Operator.reads?] at reads
  | isOneOf | endsWithOneOf | isNotOneOf | endsWithNoneOf =>
    simp [Operator.negates, isOneOf, endsWithOneOf, compared (by rw [operator]; rfl)]
  | inSegment | notInSegment =>
    simp [Operator.negates, inSegment, named (by rw [operator]; rfl)]
  | startsWith =>
    simp only [startsWith, named (by rw [operator]; rfl)]
    cases lookup c.property >>= Value.text? <;> rfl
  | inRange =>
    simp only [inRange, ranged (by rw [operator]; rfl)]
    rfl

end Criterion

/-- The context that knows one property. -/
def Context.knowing (name : String) (v : Value) : Context :=
  (∅ : Context).setGroup (splitProperty name).1
    ((∅ : Properties).insert (splitProperty name).2 v)

/-- The one property is known. -/
theorem Context.knowing_property? (name : String) (v : Value) :
    (Context.knowing name v).property? name = some v := by
  simp [knowing, property?, setGroup]

/-- Nothing is known of the empty context. -/
theorem Context.empty_property? (name : String) : (∅ : Context).property? name = none := by
  simp [property?]

namespace Criterion

/-- A criterion that tests a property varies if it has one outcome where the property is a certain
text, and the other where it is not known. -/
theorem varies_of_property (c : Criterion) (text : String) (outcome : Bool)
    (known : ∀ segment lookup, lookup c.property = some { payload := .text text } →
      c.holds segment lookup = outcome)
    (unknown : ∀ segment lookup, lookup c.property = none → c.holds segment lookup = !outcome) :
    c.Varies := by
  let catalog : Catalog := { config? := fun _ => none }
  let context := Context.knowing c.property { payload := .text text }
  have holds := known (catalog.segment (.first [context.property?, catalog.defaults]) 0)
    (.first [context.property?, catalog.defaults])
    (by simp [Lookup.first, context, Context.knowing_property?])
  have fails := unknown (catalog.segment (.first [(∅ : Context).property?, catalog.defaults]) 0)
    (.first [(∅ : Context).property?, catalog.defaults])
    (by simp [Lookup.first, catalog, Context.empty_property?])
  cases outcome with
  | true => exact ⟨catalog, 0, context, ∅, holds, fails⟩
  | false => exact ⟨catalog, 0, ∅, context, fails, holds⟩

/-- A catalog in which all keys name one segment: those of whom a property is told. -/
def club : Catalog where
  config? key := some (.single 0 key .segment
    { criteria := [{ operator := .isOneOf, property := "member",
                     target := some { payload := .texts ["yes"] } }],
      value := { payload := .bool true } })

/-- Whether one is in the segment is up to the context. -/
theorem club_segment (lookup : Lookup) (key : String) : club.segment lookup 1 key =
    if isOneOf (lookup "member") (some { payload := .texts ["yes"] }) then some true else none := by
  have entered : club.segment lookup 1 key =
      (club.evaluate 0 lookup (.single 0 key .segment
        { criteria := [{ operator := .isOneOf, property := "member",
                         target := some { payload := .texts ["yes"] } }],
          value := { payload := .bool true } })).bind (·.rule.value.bool?) := rfl
  rw [entered, Catalog.evaluate_single]
  simp only [Rule.holds, List.all_cons, List.all_nil, Bool.and_true, holds]
  split <;> rfl

/-- A criterion on a segment varies: there are segments that are up to the context. -/
theorem varies_of_segment (c : Criterion)
    (operator : c.operator = .inSegment ∨ c.operator = .notInSegment) (key : String)
    (target : c.target = some { payload := .text key }) : c.Varies := by
  let member := Context.knowing "member" { payload := .text "yes" }
  have inside : club.segment (.first [member.property?, club.defaults]) 1 key = some true := by
    have known : Lookup.first [member.property?, club.defaults] "member" =
        some { payload := .text "yes" } := by
      simp [Lookup.first, member, Context.knowing_property?]
    rw [club_segment, known]
    rfl
  have outside : club.segment (.first [(∅ : Context).property?, club.defaults]) 1 key = none := by
    have unknown : Lookup.first [(∅ : Context).property?, club.defaults] "member" = none := by
      simp [Lookup.first, club, Context.empty_property?]
    rw [club_segment, unknown]
    rfl
  rcases operator with operator | operator
  · refine ⟨club, 1, member, ∅, ?_, ?_⟩
    all_goals simp [Catalog.criterionHolds, holds, operator, target, inSegment, Value.text?,
      inside, outside]
  · refine ⟨club, 1, ∅, member, ?_, ?_⟩
    all_goals simp [Catalog.criterionHolds, holds, operator, target, inSegment, Value.text?,
      inside, outside]

end Criterion

namespace Document

open Criterion

/-- The target of an accepted criterion is built from the texts that it lists, by its operator. -/
theorem criterionOf_ok (key : String) (entries : Entries) (c : Criterion) (texts : List String)
    (accepted : criterionOf key entries = .ok c) (listed : criterionTexts key entries = .ok texts) :
    c.target = criterionTarget c.operator texts := by
  unfold criterionOf at accepted
  split at accepted
  · contradiction
  · split at accepted
    · contradiction
    · obtain ⟨texts', same, ⟨rfl⟩⟩ := (Outcome.bind_ok_iff ..).mp accepted
      obtain rfl := Except.ok.inj (same.symm.trans listed)
      rfl

/-- From at least one text, a target of the type that is read is built for every operator but the
one for ranges. -/
theorem criterionTarget_typed_iff (operator : Operator) (first : String) (others : List String) :
    (criterionTarget operator (first :: others)).map (·.payload.valueType) = operator.reads? ↔
      operator ≠ .inRange := by
  cases operator <;> simp [criterionTarget, Operator.reads?, Payload.valueType]

/-- With the target that is built from at least one text, the context decides, unless the operator
reads no target or reads a range. -/
theorem criterionTarget_varies (c : Criterion) (first : String) (others : List String)
    (target : c.target = criterionTarget c.operator (first :: others))
    (reads : c.operator.reads? ≠ none) (noRange : c.operator ≠ .inRange) : c.Varies := by
  have equal : isOneOf (some { payload := .text first })
      (some { payload := .texts (first :: others) }) = true := by
    simp [isOneOf, compareTexts, Value.text?, Value.texts?]
  have ends : endsWithOneOf (some { payload := .text first })
      (some { payload := .texts (first :: others) }) = true := by
    simp [endsWithOneOf, compareTexts, Value.text?, Value.texts?]
  have starts : startsWith (some { payload := .text first }) (some { payload := .text first }) =
      true := by
    simp [startsWith, Value.text?]
  have unequal (target : Option Value) : isOneOf none target = false := rfl
  have endless (target : Option Value) : endsWithOneOf none target = false := rfl
  have startless (target : Option Value) : startsWith none target = false := rfl
  cases operator : c.operator with
  | unset | always => simp [operator, Operator.reads?] at reads
  | inRange => exact absurd operator noRange
  | isOneOf | endsWithOneOf | startsWith =>
    refine varies_of_property c first true ?_ ?_
    all_goals
      intro segment lookup found
      simp [holds, operator, target, criterionTarget, found, equal, ends, starts, unequal, endless,
        startless]
  | isNotOneOf | endsWithNoneOf =>
    refine varies_of_property c first false ?_ ?_
    all_goals
      intro segment lookup found
      simp [holds, operator, target, criterionTarget, found, equal, ends, unequal, endless]
  | inSegment | notInSegment =>
    refine varies_of_segment c (by simp [operator]) first ?_
    simp [target, operator, criterionTarget]

/-- The criterion of an accepted document, with at least one text listed. For every operator but the
one for ranges the target is of the type that evaluation reads, and if it reads any, the context
decides. For ranges the target is a list of texts, which is not read: the criterion holds for no
context. -/
theorem criterion_typed_unless_range (key : String) (entries : Entries) (c : Criterion)
    (texts : List String) (accepted : criterionOf key entries = .ok c)
    (listed : criterionTexts key entries = .ok texts) (some : texts ≠ []) :
    (c.Typed ↔ c.operator ≠ .inRange) ∧
    (c.operator = .inRange → c.Settled false) ∧
    (c.operator ≠ .inRange → c.operator.reads? = none ∨ c.Varies) := by
  obtain ⟨first, others, rfl⟩ := List.exists_cons_of_ne_nil some
  have target := criterionOf_ok key entries c _ accepted listed
  have typed : c.Typed ↔ c.operator ≠ .inRange := by
    rw [Typed, target]
    exact criterionTarget_typed_iff c.operator first others
  refine ⟨typed, ?_, ?_⟩
  · intro operator
    have settled := c.settled_of_mistyped (fun right => typed.mp right operator)
      (by simp [operator, Operator.reads?])
    rwa [operator] at settled
  · intro noRange
    by_cases reads : c.operator.reads? = none
    · exact .inl reads
    · exact .inr (criterionTarget_varies c first others target reads noRange)

/-- A criterion on the end of a property; one of the endings is written as a number. -/
def staff : Entries :=
  [(.text "operator", .text "PROP_ENDS_WITH_ONE_OF"), (.text "property", .text "user.email"),
   (.text "values", .sequence [.text "@example.com", .number (.natural 7)])]

/-- It is up to the context whether the criterion holds. -/
theorem staff_varies : ∃ c, criterionOf "beta" staff = .ok c ∧
    criterionTexts "beta" staff = .ok ["@example.com", "7"] ∧ c.Typed ∧ c.Varies := by
  have accepted : criterionOf "beta" staff = .ok
      { operator := .endsWithOneOf, property := "user.email",
        target := some { payload := .texts ["@example.com", "7"] } } := rfl
  have listed : criterionTexts "beta" staff = .ok ["@example.com", "7"] := rfl
  obtain ⟨typed, -, varies⟩ :=
    criterion_typed_unless_range "beta" staff _ _ accepted listed (by simp)
  refine ⟨_, accepted, listed, typed.mpr (by simp), ?_⟩
  exact (varies (by simp)).resolve_left (by simp [Operator.reads?])

/-- A criterion on a range. -/
def teamSize : Entries :=
  [(.text "operator", .text "IN_INT_RANGE"), (.text "property", .text "team.size"),
   (.text "values", .sequence [.number (.natural 10), .number (.natural 20)])]

/-- The criterion is accepted, with two values listed, and yet its target is mistyped and it holds
for no context. -/
theorem team_size_never_holds : ∃ c, criterionOf "sizes" teamSize = .ok c ∧
    criterionTexts "sizes" teamSize = .ok ["10", "20"] ∧ c.operator = .inRange ∧
    ¬ c.Typed ∧ c.Settled false := by
  refine ⟨{ operator := .inRange, property := "team.size",
            target := some { payload := .texts ["10", "20"] } }, rfl, rfl, rfl, ?_, ?_⟩
  · simp [Typed, Operator.reads?, Payload.valueType]
  · intro catalog depth lookup
    rfl

end Document

end LiveConfig
