import LiveConfig.Proofs.Confidentiality
import LiveConfig.Proofs.RecorderTraces

/-!
# Summaries hide secrets

Two runs that differ in secrets only have the same summaries. Stores, environments and decrypters
may differ from run to run, and contexts too: what matters is that each resolution takes the same
course and serves the same value, or else a sensitive one. A value is sensitive if the rules
selected a confidential one, if the decided one is confidential, or if it was decrypted. Of two
sensitive values only the redactions need to be the same, so they may hold texts, numbers or lists.

The redaction of a value is what a summary tells of it. Whether two secrets have the same redaction
is therefore not hidden.
-/

namespace LiveConfig

namespace Resolver

/-- The value that a resolution serves is sensitive. -/
def Sensitive (r : Resolver) (context : Context) (key : String) (arm : Option Nat) (v : Value) :
    Prop :=
  ∃ selected decided, r.selected? context key = some selected ∧
    r.choose context key selected = .ok (arm, decided) ∧
    (selected.confidential = true ∨ decided.confidential = true ∨
      Decrypted context r.depth r key decided v)

/-- Sensitive values are marked as confidential. -/
theorem sensitive_confidential (r : Resolver) (context : Context) (key : String)
    (resolution : Resolution) (v : Value) (resolved : r.resolve context key = .ok resolution)
    (served : resolution.value = some v)
    (sensitive : r.Sensitive context key resolution.arm v) : v.confidential = true := by
  rw [resolve, resolveAt_eq] at resolved
  obtain ⟨found, decided, -, serves, chosen, done⟩ :=
    r.resolveWith_value context key _ resolution v resolved served
  obtain ⟨selected, other, serves', chosen', reason⟩ := sensitive
  obtain rfl := Option.some.inj (serves.symm.trans serves')
  obtain ⟨-, rfl⟩ := Prod.mk.inj (Except.ok.inj (chosen.symm.trans chosen'))
  rw [r.settle_decrypted_iff context key r.depth _ _ _ _ done] at reason
  exact (r.settle_confidential _ _ _ _ _ done).mpr reason

end Resolver

/-- Two resolutions that take the same course: nothing tells them apart but their values. -/
structure Resolution.SameCourse (a b : Resolution) : Prop where
  key : a.key = b.key
  id : a.config.id = b.config.id
  kind : a.config.kind = b.config.kind
  place : a.selection.map (fun found => (found.row, found.index)) =
    b.selection.map fun found => (found.row, found.index)
  arm : a.arm = b.arm

namespace Telemetry

/-- A key is resolved in two ways whose outcomes differ in secrets only. -/
inductive VeiledOutcome (r r' : Resolver) (context context' : Context) (key : String) : Prop
  | failed (cause cause' : ConfigError) (first : r.resolve context key = .error cause)
      (second : r'.resolve context' key = .error cause')
  | unserved (a b : Resolution) (first : r.resolve context key = .ok a)
      (second : r'.resolve context' key = .ok b) (course : a.SameCourse b)
      (empty : a.value = none) (empty' : b.value = none)
  | served (a b : Resolution) (v w : Value) (first : r.resolve context key = .ok a)
      (second : r'.resolve context' key = .ok b) (course : a.SameCourse b)
      (value : a.value = some v) (value' : b.value = some w)
      (marks : v.confidential = w.confidential ∧ v.decryptWith = w.decryptWith)
      (payloads : v.payload = w.payload ∨
        (r.Sensitive context key a.arm v ∨ r'.Sensitive context' key b.arm w) ∧
          redaction v.rawText = redaction w.rawText)

/-- Two acts that differ in secrets only. -/
inductive VeiledAct : Act → Act → Prop
  | resolved (r r' : Resolver) (context context' : Context) (key : String)
      (outcome : VeiledOutcome r r' context context' key) :
      VeiledAct (.resolved r context key) (.resolved r' context' key)
  | asked (context context' : Context) : VeiledAct (.asked context) (.asked context')
  | drained : VeiledAct .drained .drained
  | drainedPart (part : Part) : VeiledAct (.drainedPart part) (.drainedPart part)
  | submitted (reply reply' : Http.Reply) : VeiledAct (.submitted reply) (.submitted reply')

/-- Resolutions of the same course that serve nothing, or values with the same redacted form, are
recorded alike. -/
theorem Tallies.record_alike (t : Tallies) (a b : Resolution) (course : a.SameCourse b)
    (values : a.value.map Value.redacted = b.value.map Value.redacted) :
    t.record a = t.record b := by
  have subjects : subjectOf a = subjectOf b := by
    rw [subjectOf, subjectOf, course.key, course.kind]
  have branches : branchOf? a = branchOf? b := by
    have place := course.place
    unfold branchOf?
    rw [course.id, course.arm]
    cases first : a.selection <;> cases second : b.selection <;>
      cases one : a.value <;> cases other : b.value <;>
      simp_all
  rw [record, record, subjects, branches]

/-- A sensitive value may be replaced by one of the same redaction: the redacted forms are equal. -/
theorem redacted_alike (v w : Value)
    (marks : v.confidential = w.confidential ∧ v.decryptWith = w.decryptWith)
    (payloads : v.payload = w.payload ∨
      v.confidential = true ∧ redaction v.rawText = redaction w.rawText) :
    v.redacted = w.redacted := by
  rcases payloads with same | ⟨marked, same⟩
  · have equal : v = w := by
      obtain ⟨mark, key⟩ := marks
      cases v
      cases w
      simp_all
    rw [equal]
  · rw [Value.redacted, Value.redacted, if_pos marked, if_pos (marks.1 ▸ marked), same]

/-- Outcomes that differ in secrets only are recorded alike. -/
theorem VeiledOutcome.record_alike {r r' : Resolver} {context context' : Context} {key : String}
    (veiled : VeiledOutcome r r' context context' key) (t : Tallies) :
    (answersOf (r.resolve context key)).foldl Tallies.record t =
      (answersOf (r'.resolve context' key)).foldl Tallies.record t := by
  have answered (a b : Resolution) (course : a.SameCourse b)
      (values : a.value.map Value.redacted = b.value.map Value.redacted) :
      (answersOf (.ok a)).foldl Tallies.record t = (answersOf (.ok b)).foldl Tallies.record t := by
    simp only [answersOf, course.kind]
    split
    · rfl
    · exact t.record_alike a b course values
  cases veiled with
  | failed cause cause' first second =>
    rw [first, second]
    rfl
  | unserved a b first second course empty empty' =>
    rw [first, second]
    exact answered a b course (by rw [empty, empty'])
  | served a b v w first second course value value' marks payloads =>
    rw [first, second]
    refine answered a b course ?_
    -- One sensitive value makes both confidential, because their marks agree.
    have marked : r.Sensitive context key a.arm v ∨ r'.Sensitive context' key b.arm w →
        v.confidential = true := by
      rintro (sensitive | sensitive)
      · exact r.sensitive_confidential context key a v first value sensitive
      · rw [marks.1]
        exact r'.sensitive_confidential context' key b w second value' sensitive
    have redacted := redacted_alike v w marks (payloads.imp_right (.imp_left marked))
    rw [value, value', Option.map_some, Option.map_some, redacted]

/-- Acts that differ in secrets only drain the same parts. -/
theorem VeiledAct.drains_alike {act act' : Act} (veiled : VeiledAct act act') :
    act.drains = act'.drains := by
  cases veiled <;> rfl

/-- Secrets leave no trace in the summaries: an act preserves that they are equal. -/
theorem VeiledAct.summaries_alike {act act' : Act} (veiled : VeiledAct act act')
    (r r' : Recorder) (same : r.summaries = r'.summaries) :
    (r.perform act).summaries = (r'.perform act').summaries := by
  have shown (t : Tallies) :
      act.answers.foldl Tallies.record t = act'.answers.foldl Tallies.record t := by
    cases veiled with
    | resolved r r' context context' key outcome => exact outcome.record_alike t
    | asked | drained | drainedPart | submitted => rfl
  have recorded : act.answers.foldl Tallies.record = act'.answers.foldl Tallies.record :=
    funext shown
  rw [Recorder.perform_eq, Recorder.perform_eq]
  simp only [same, veiled.drains_alike, recorded]

/-- Secrets do not flow into summaries. Two traces that differ in secrets only, at every step, have
the same summaries after every step, and the summaries that are taken out are the same. -/
theorem summaries_hide_secrets (mode : UploadMode) (acts acts' : List Act)
    (veiled : List.Forall₂ VeiledAct acts acts') :
    (∀ n, ((Recorder.start true mode).run (acts.take n)).summaryReport? =
      ((Recorder.start true mode).run (acts'.take n)).summaryReport?) ∧
    ((Recorder.start true mode).reportedBy acts).filterMap Report.summaries? =
      ((Recorder.start true mode).reportedBy acts').filterMap Report.summaries? := by
  have preserved (r r' : Recorder) (act act' : Act) (same : r.summaries = r'.summaries)
      (veiled : VeiledAct act act') : (r.perform act).summaries = (r'.perform act').summaries :=
    veiled.summaries_alike r r' same
  constructor
  · intro n
    have same := Recorder.run_related (fun r r' => r.summaries = r'.summaries) VeiledAct preserved
      (acts.take n) (acts'.take n) (List.forall₂_take n veiled) (.start true mode)
      (.start true mode) rfl
    rw [Recorder.summaryReport?, same]
    rfl
  · have taken := Recorder.reportedBy_related (fun r r' => r.summaries = r'.summaries) VeiledAct
      preserved Report.summaries? Eq (fun r r' act act' same veiled => by
        rw [Recorder.reported_summaries, Recorder.reported_summaries, Recorder.summaryReport?,
          Recorder.summaryReport?, same, Act.taken, Act.taken, veiled.drains_alike]
        exact List.forall₂_refl _) acts acts' veiled (.start true mode) (.start true mode) rfl
    exact List.forall₂_eq_eq_eq ▸ taken

/-- A secret. -/
def hidden (p : Payload) : Value :=
  { payload := p, confidential := true }

/-- A resolver for one secret. -/
def vault (p : Payload) : Resolver where
  catalog := (Store.ofConfigs [.constant 1 "pin" (hidden p)]).catalog

/-- The config of the secret. -/
theorem vault_config? (p : Payload) :
    (vault p).catalog.config? "pin" = some (.constant 1 "pin" (hidden p)) := by
  simp [vault, Store.catalog, Store.ofConfigs, Store.config?, Table.ofConfigs, Config.constant,
    Config.single]

/-- A secret that is no split is decided as it is. -/
theorem vault_choose (p : Payload) (whole : ∀ s, p ≠ .split s) :
    (vault p).choose ∅ "pin" (hidden p) = .ok (none, hidden p) := by
  cases p <;> first | exact absurd rfl (whole _) | rfl

/-- A secret that is neither split nor provided is served as it is. -/
theorem vault_resolve (p : Payload) (whole : ∀ s, p ≠ .split s) (here : ∀ q, p ≠ .provided q) :
    (vault p).resolve ∅ "pin" = .ok
      { key := "pin", config := .constant 1 "pin" (hidden p),
        selection := some { row := 0, index := 0, rule := { value := hidden p } },
        value := some (hidden p) } :=
  (vault p).resolveAt_unconditional ∅ "pin" _ 1 "pin" _ (hidden p) ⟨whole, here, rfl⟩
    (vault_config? p)

/-- A text and a list that are written alike cannot be told apart by their summaries, pending or
drained. -/
theorem vaults_look_alike :
    ((Recorder.start true .nothing).run
        [.resolved (vault (.text "[a b]")) ∅ "pin"]).summaryReport? =
      ((Recorder.start true .nothing).run
        [.resolved (vault (.texts ["a", "b"])) ∅ "pin"]).summaryReport? ∧
    ((Recorder.start true .nothing).reportedBy
        [.resolved (vault (.text "[a b]")) ∅ "pin", .drained]).filterMap Report.summaries? =
      ((Recorder.start true .nothing).reportedBy
        [.resolved (vault (.texts ["a", "b"])) ∅ "pin", .drained]).filterMap Report.summaries? := by
  have selected : (vault (.text "[a b]")).selected? ∅ "pin" = some (hidden (.text "[a b]")) := by
    simp [Resolver.selected?, vault_config?, Catalog.evaluate_constant]
  have sensitive : (vault (.text "[a b]")).Sensitive ∅ "pin" none (hidden (.text "[a b]")) :=
    ⟨_, _, selected, vault_choose _ (by simp), .inl rfl⟩
  have outcome : VeiledOutcome (vault (.text "[a b]")) (vault (.texts ["a", "b"])) ∅ ∅ "pin" :=
    .served _ _ _ _ (vault_resolve _ (by simp) (by simp)) (vault_resolve _ (by simp) (by simp))
      ⟨rfl, rfl, rfl, rfl, rfl⟩ rfl rfl ⟨rfl, rfl⟩ (.inr ⟨.inl sensitive, rfl⟩)
  obtain ⟨pending, drained⟩ := summaries_hide_secrets .nothing _ _
    (.cons (.resolved _ _ _ _ _ outcome) (.cons .drained .nil))
  exact ⟨pending 1, drained⟩

end Telemetry

end LiveConfig
