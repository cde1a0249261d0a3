import LiveConfig.Proofs.RecorderTraces
import LiveConfig.Proofs.WrittenContexts

/-!
# What is reported of contexts

Two traces of contexts may differ in confidential properties alone, in payloads of one type with one
redaction. Which contexts are kept as examples is the same then, as are the shapes. The examples
themselves are reported as they are: redaction is left to the summaries, and a confidential property
is read from a report like any other, with its mark.

Identities are made of the properties named `key`, whether or not these are confidential.
-/

namespace LiveConfig

/-- Two confidential values that nothing tells apart but a payload of the same type and with the
same redaction. -/
structure Value.Veiled (v w : Value) : Prop where
  marked : v.confidential = true
  marked' : w.confidential = true
  key : v.decryptWith = w.decryptWith
  tag : v.payload.tag = w.payload.tag
  redaction : redaction v.rawText = redaction w.rawText

/-- Properties that are equal, save for confidential ones that are not named `key`. -/
def Properties.Alike (properties others : Properties) : Prop :=
  ∀ name : String,
    Option.Rel (fun v w => v = w ∨ name ≠ "key" ∧ v.Veiled w) properties[name]? others[name]?

/-- Contexts whose groups are alike. -/
def Context.Alike (context other : Context) : Prop :=
  ∀ name : String, Option.Rel Properties.Alike context[name]? other[name]?

/-- What related values have in common, related options have. -/
theorem map_eq_of_rel {α β : Type} {R : α → α → Prop} {a b : Option α} (related : Option.Rel R a b)
    (view : α → β) (common : ∀ x y, R x y → view x = view y) : a.map view = b.map view := by
  cases related with
  | none => rfl
  | some here => rw [Option.map_some, Option.map_some, common _ _ here]

/-- What alike groups have in common, alike contexts have. -/
theorem Context.Alike.map_eq {α : Type} {context other : Context} (alike : context.Alike other)
    (view : Properties → α)
    (common : ∀ properties others, Properties.Alike properties others →
      view properties = view others) :
    (context.map fun _ properties => view properties) =
      other.map fun _ properties => view properties := by
  apply Std.ExtTreeMap.ext_getElem?
  intro name
  rw [Std.ExtTreeMap.getElem?_map, Std.ExtTreeMap.getElem?_map]
  exact map_eq_of_rel (alike name) view common

/-- Alike contexts have one identity. -/
theorem Context.Alike.identity_eq {context other : Context} (alike : context.Alike other) :
    context.identity = other.identity := by
  have keys := alike.map_eq (fun properties => properties["key"]?.map Value.rawText)
    fun properties others groups => map_eq_of_rel (groups "key") Value.rawText fun v w same => by
      obtain rfl | ⟨named, -⟩ := same
      · rfl
      · exact absurd rfl named
  -- The identity reads the properties named `key` only, so it can be listed from these.
  have listed (context : Context) : context.identity = "|".intercalate
      ((context.map fun _ properties => properties["key"]?.map Value.rawText).toList.filterMap
        fun (name, found) => found.map fun key => name ++ ":" ++ key) := by
    rw [identity, Std.ExtTreeMap.toList_map, List.filterMap_map]
    congr 2
    funext ⟨name, properties⟩
    exact (Option.map_map ..).symm
  rw [listed, listed, keys]

namespace Telemetry

/-- The type in a shape depends on the tag alone. -/
theorem shapeCode_tag (v w : Value) (same : v.payload.tag = w.payload.tag) :
    shapeCode v = shapeCode w := by
  obtain ⟨p, _, _⟩ := v
  obtain ⟨q, _, _⟩ := w
  cases p <;> cases q <;> first | rfl | simp [Payload.tag] at same

/-- Alike contexts have one shape. -/
theorem Shapes.record_alike (shapes : Shapes) {context other : Context}
    (alike : context.Alike other) : shapes.record context = shapes.record other := by
  have codes := alike.map_eq (fun properties => properties.map fun _ v => shapeCode v)
    fun properties others groups => by
      apply Std.ExtTreeMap.ext_getElem?
      intro name
      rw [Std.ExtTreeMap.getElem?_map, Std.ExtTreeMap.getElem?_map]
      refine map_eq_of_rel (groups name) shapeCode fun v w same => ?_
      obtain rfl | ⟨-, veiled⟩ := same
      · rfl
      · exact shapeCode_tag v w veiled.tag
  have listed (context : Context) : shapes.record context =
      (context.map fun _ properties => properties.map fun _ v => shapeCode v).toList.foldl
        (fun shapes (name, codes) => Std.ExtTreeMap.alter shapes name fun known =>
          some (codes ∪ known.getD ∅)) shapes := by
    rw [record, Std.ExtTreeMap.toList_map, List.foldl_map]
    rfl
  rw [listed, listed, codes]

/-- An example is kept exactly where an alike one is. -/
theorem Examples.record_alike {P : Context → Context → Prop}
    (alike : ∀ context other, P context other → context.Alike other) {examples others : Examples}
    (kept : List.Forall₂ P examples others) {context other : Context} (related : P context other) :
    List.Forall₂ P (Examples.record examples context) (Examples.record others other) := by
  have identities : examples.map Context.identity = others.map Context.identity := by
    induction kept with
    | nil => rfl
    | cons first _ inductionHypothesis =>
      rw [List.map_cons, List.map_cons, (alike _ _ first).identity_eq, inductionHypothesis]
  have any (list : Examples) (identity : String) :
      list.any (·.identity == identity) = (list.map Context.identity).any (· == identity) := by
    rw [List.any_map]
    rfl
  unfold record
  rw [any, any, identities, (alike context other related).identity_eq]
  split
  · exact kept
  · exact List.rel_append kept (.cons related .nil)

/-- Of alike contexts, alike examples are kept. -/
theorem Examples.foldl_alike {P : Context → Context → Prop}
    (alike : ∀ context other, P context other → context.Alike other) {examples others : Examples}
    (kept : List.Forall₂ P examples others) {contexts contexts' : List Context}
    (related : List.Forall₂ P contexts contexts') :
    List.Forall₂ P (contexts.foldl Examples.record examples)
      (contexts'.foldl Examples.record others) := by
  induction related generalizing examples others with
  | nil => exact kept
  | cons first _ inductionHypothesis =>
    exact inductionHypothesis (Examples.record_alike alike kept first)

/-- Of alike contexts, the same shapes are kept. -/
theorem Shapes.foldl_alike (shapes : Shapes) {contexts contexts' : List Context}
    (related : List.Forall₂ Context.Alike contexts contexts') :
    contexts.foldl Shapes.record shapes = contexts'.foldl Shapes.record shapes := by
  induction related generalizing shapes with
  | nil => rfl
  | cons first _ inductionHypothesis =>
    rw [List.foldl_cons, List.foldl_cons, record_alike shapes first, inductionHypothesis]

/-- Two acts on contexts that differ in confidential properties only. -/
inductive AlikeAct : Act → Act → Prop
  | asked (context other : Context) (alike : context.Alike other) :
      AlikeAct (.asked context) (.asked other)
  | drained : AlikeAct .drained .drained
  | drainedPart (part : Part) : AlikeAct (.drainedPart part) (.drainedPart part)
  | submitted (reply reply' : Http.Reply) : AlikeAct (.submitted reply) (.submitted reply')

/-- Acts on alike contexts drain the same parts. -/
theorem AlikeAct.drains_eq {act act' : Act} (alike : AlikeAct act act') :
    act.drains = act'.drains := by
  cases alike <;> rfl

/-- A context of one trace and an alike one of another. -/
structure Paired (acts acts' : List Act) (context other : Context) : Prop where
  here : context ∈ acts.flatMap Act.contexts
  there : other ∈ acts'.flatMap Act.contexts
  alike : context.Alike other

/-- The contexts of two traces of alike acts are paired act by act. -/
theorem paired_contexts (acts acts' : List Act) (alike : List.Forall₂ AlikeAct acts acts') :
    List.Forall₂ (fun act act' => act.drains = act'.drains ∧
      List.Forall₂ (Paired acts acts') act.contexts act'.contexts) acts acts' := by
  have members (all all' : List Act) (within : ∀ act ∈ all, act ∈ acts)
      (within' : ∀ act ∈ all', act ∈ acts') (alike : List.Forall₂ AlikeAct all all') :
      List.Forall₂ (fun act act' => act.drains = act'.drains ∧
        List.Forall₂ (Paired acts acts') act.contexts act'.contexts) all all' := by
    induction alike with
    | nil => exact .nil
    | @cons act act' rest rest' first _ inductionHypothesis =>
      obtain ⟨here, later⟩ := List.forall_mem_cons.mp within
      obtain ⟨here', later'⟩ := List.forall_mem_cons.mp within'
      refine .cons ⟨first.drains_eq, ?_⟩ (inductionHypothesis later later')
      cases first with
      | asked context other alike =>
        exact .cons ⟨List.mem_flatMap.mpr ⟨_, here, List.mem_singleton_self context⟩,
          List.mem_flatMap.mpr ⟨_, here', List.mem_singleton_self other⟩, alike⟩ .nil
      | drained | drainedPart | submitted => exact .nil
  exact members acts acts' (fun _ member => member) (fun _ member => member) alike

/-- Recorders that keep paired examples, and the same shapes. -/
structure KeepAlike (acts acts' : List Act) (r r' : Recorder) : Prop where
  examples : Option.Rel (List.Forall₂ (Paired acts acts')) r.examples r'.examples
  shapes : r.shapes = r'.shapes

/-- Acts on paired contexts preserve what is kept alike. -/
theorem KeepAlike.perform {acts acts' : List Act} {r r' : Recorder}
    (kept : KeepAlike acts acts' r r') (act act' : Act) (drains : act.drains = act'.drains)
    (contexts : List.Forall₂ (Paired acts acts') act.contexts act'.contexts) :
    KeepAlike acts acts' (r.perform act) (r'.perform act') := by
  have recorded : act.contexts.foldl Shapes.record = act'.contexts.foldl Shapes.record :=
    funext fun shapes => Shapes.foldl_alike shapes (contexts.imp fun _ _ => Paired.alike)
  obtain ⟨examples, shapes⟩ := kept
  rw [Recorder.perform_eq, Recorder.perform_eq, drains]
  refine ⟨?_, by simp only [shapes, recorded]⟩
  generalize r.examples = list, r'.examples = list' at examples
  dsimp only
  cases examples with
  | none => cases act'.drains .examples <;> exact .none
  | some same =>
    cases act'.drains .examples with
    | true => exact .some .nil
    | false => exact .some (Examples.foldl_alike (fun _ _ => Paired.alike) same contexts)

/-- Two reported examples are the written forms of alike contexts, one of each trace. -/
def ShowAlike (acts acts' : List Act) (shown shown' : WrittenContext) : Prop :=
  ∃ context other, Paired acts acts' context other ∧
    shown = .of context ∧ shown' = .of other

/-- Of paired examples, alike ones are reported. -/
theorem KeepAlike.reported {acts acts' : List Act} {r r' : Recorder}
    (kept : KeepAlike acts acts' r r') :
    Option.Rel (List.Forall₂ (ShowAlike acts acts')) r.exampleReport? r'.exampleReport? := by
  obtain ⟨examples, -⟩ := kept
  unfold Recorder.exampleReport?
  generalize r.examples = list, r'.examples = list' at examples
  cases examples with
  | none => exact .none
  | some same =>
    cases same with
    | nil => exact .none
    | cons first rest =>
      refine .some (List.forall₂_map_left_iff.mpr (List.forall₂_map_right_iff.mpr ?_))
      exact (List.Forall₂.cons first rest).imp fun context other paired =>
        ⟨context, other, paired, rfl, rfl⟩

/-- Confidential properties are reported like others. Where two traces differ in nothing but
confidential properties, the shapes that are taken out are the same, and the examples show alike
contexts of the two traces, in the same order. Such an example has the bytes of each property,
whether or not it is confidential, and a receiver gets the property back if it can be read. -/
theorem confidential_properties_reported (summaries : Bool) (acts acts' : List Act)
    (alike : List.Forall₂ AlikeAct acts acts') :
    ((Recorder.start summaries .examples).reportedBy acts).filterMap Report.shapes? =
      ((Recorder.start summaries .examples).reportedBy acts').filterMap Report.shapes? ∧
    List.Forall₂ (List.Forall₂ (ShowAlike acts acts'))
      (((Recorder.start summaries .examples).reportedBy acts).filterMap Report.examples?)
      (((Recorder.start summaries .examples).reportedBy acts').filterMap Report.examples?) ∧
    (∀ (context : Context) (group property : String),
      (WrittenContext.of context).bytesAt? group property =
        (context.valueAt? group property).map Value.encode) ∧
    ∀ (context : Context) (group property : String) (v : Value),
      context.valueAt? group property = some v → v.Readable →
      (WrittenContext.read (.of context)).valueAt? group property = some v := by
  have contexts := paired_contexts acts acts' alike
  have preserved (r r' : Recorder) (act act' : Act) (kept : KeepAlike acts acts' r r')
      (step : act.drains = act'.drains ∧
        List.Forall₂ (Paired acts acts') act.contexts act'.contexts) :
      KeepAlike acts acts' (r.perform act) (r'.perform act') :=
    kept.perform act act' step.1 step.2
  have start : KeepAlike acts acts' (.start summaries .examples) (.start summaries .examples) :=
    ⟨.some .nil, rfl⟩
  refine ⟨?_, ?_, WrittenContext.bytesAt?_of, WrittenContext.valueAt?_read_of⟩
  · have taken := Recorder.reportedBy_related _ _ preserved Report.shapes? Eq
      (fun r r' act act' kept step => by
        rw [Recorder.reported_shapes, Recorder.reported_shapes, Recorder.shapeReport?,
          Recorder.shapeReport?, kept.shapes, Act.taken, Act.taken, step.1]
        exact List.forall₂_refl _) acts acts' contexts _ _ start
    exact List.forall₂_eq_eq_eq ▸ taken
  · refine Recorder.reportedBy_related _ _ preserved Report.examples? _
      (fun r r' act act' kept step => ?_) acts acts' contexts _ _ start
    rw [Recorder.reported_examples, Recorder.reported_examples, Act.taken, Act.taken, step.1]
    split
    · have shown := kept.reported
      generalize r.exampleReport? = list, r'.exampleReport? = list' at shown
      cases shown with
      | none => exact .nil
      | some same => exact .cons same .nil
    · exact .nil

/-- A confidential token. -/
def token (parts : List String) : Value :=
  { payload := .texts parts, confidential := true }

/-- A user with a confidential token. -/
def badge (parts : List String) : Context :=
  .ofGroups [("user", .ofPairs [("key", { payload := .text "u-1" }), ("token", token parts)])]

/-- The only group of a badge. -/
theorem badge_group (parts : List String) (name : String) : (badge parts)[name]? =
    if "user" = name then
      some (.ofPairs [("key", { payload := .text "u-1" }), ("token", token parts)])
    else none := by
  simp [badge, Context.ofGroups, Std.ExtTreeMap.ofList_singleton, Std.ExtTreeMap.getElem?_insert]

/-- The properties of a badge. -/
theorem badge_property (key secret : Value) (name : String) :
    (Properties.ofPairs [("key", key), ("token", secret)])[name]? =
      if "token" = name then some secret else if "key" = name then some key else none := by
  simp [Properties.ofPairs, Std.ExtTreeMap.ofList_cons, Std.ExtTreeMap.getElem?_insert]

/-- Badges whose tokens are written alike are alike. -/
theorem badges_alike (parts others : List String)
    (same : " ".intercalate parts = " ".intercalate others) :
    (badge parts).Alike (badge others) := by
  have veiled : (token parts).Veiled (token others) :=
    ⟨rfl, rfl, rfl, rfl, by simp only [token, Value.rawText, Payload.rawText, same]⟩
  intro name
  rw [badge_group, badge_group]
  split
  · refine .some fun property => ?_
    rw [badge_property, badge_property]
    split
    · next isToken => exact .some (.inr ⟨by simp [← isToken], veiled⟩)
    · split
      · exact .some (.inl rfl)
      · exact .none
  · exact .none

/-- Badges whose tokens are written alike have one shape. -/
theorem badges_share_shapes :
    ((Recorder.start false .examples).reportedBy
        [.asked (badge ["a b"]), .drained]).filterMap Report.shapes? =
      ((Recorder.start false .examples).reportedBy
        [.asked (badge ["a", "b"]), .drained]).filterMap Report.shapes? := by
  have alike : (badge ["a b"]).Alike (badge ["a", "b"]) := badges_alike _ _ rfl
  exact (confidential_properties_reported false _ _ (.cons (.asked _ _ alike)
    (.cons .drained .nil))).1

/-- A badge that is observed is the example that is drained. -/
theorem badge_reported (parts : List String) :
    ((Recorder.start false .examples).reportedBy
        [.asked (badge parts), .drained]).filterMap Report.examples? =
      [[.of (badge parts)]] := by
  have identity : (badge parts).identity = "user:u-1" := rfl
  have kept : Examples.record [] (badge parts) = [badge parts] := by
    simp [Examples.record, identity]
  have report : ((Recorder.start false .examples).perform (.asked (badge parts))).exampleReport? =
      some [.of (badge parts)] := by
    rw [Recorder.exampleReport?, Recorder.perform_eq]
    show some (Examples.record [] (badge parts)) >>= Examples.report? = _
    rw [kept]
    rfl
  rw [Recorder.reportedBy, Recorder.reportedBy, Recorder.reportedBy, List.append_nil,
    List.filterMap_append, Recorder.reported_examples, Recorder.reported_examples, report]
  rfl

/-- Alike badges are told apart by what is reported of them: tokens are written as they are. -/
theorem badges_told_apart :
    List.Forall₂ AlikeAct [.asked (badge ["a b"]), .drained]
        [.asked (badge ["a", "b"]), .drained] ∧
      (Recorder.start false .examples).reportedBy [.asked (badge ["a b"]), .drained] ≠
        (Recorder.start false .examples).reportedBy [.asked (badge ["a", "b"]), .drained] := by
  have alike : (badge ["a b"]).Alike (badge ["a", "b"]) := badges_alike _ _ rfl
  refine ⟨.cons (.asked _ _ alike) (.cons .drained .nil), fun same => ?_⟩
  have shown := congrArg (List.filterMap Report.examples?) same
  rw [badge_reported, badge_reported] at shown
  have badges : badge ["a b"] = badge ["a", "b"] :=
    WrittenContext.of_injective (List.singleton_inj.mp (List.singleton_inj.mp shown))
  have tokens := congrArg (fun context : Context => context.valueAt? "user" "token") badges
  simp [Context.valueAt?, badge_group, badge_property, token] at tokens

end Telemetry

end LiveConfig
