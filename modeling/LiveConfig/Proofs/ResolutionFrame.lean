import LiveConfig.Proofs.LayeredStores
import LiveConfig.Proofs.LiveConvergence

/-!
# Resolution depends only on what it reaches

A resolution asks its catalog for the keys that it reaches, reads the properties that their configs
name, and takes a fraction of chance for each split that no property decides. Two resolvers that
agree on these give one result, whatever else their stores hold: the same resolution or the same
error. So a snapshot that brings none of the keys that are reached, no other environment and no
other default context leaves a resolution as it is.

There is one lemma for each step of a resolution. The induction is on the number of keys that may
still be resolved for secrets and carries the agreement along, since what a key of a secret reaches
is reached from the first key.
-/

namespace LiveConfig

namespace Resolver

/-- Two resolvers, each with the context of a call, agree on what the first one reaches from a
key. -/
structure AgreeOn (r s : Resolver) (context other : Context) (key : String) : Prop where
  configs : ∀ name, r.catalog.Reaches key name → s.catalog.config? name = r.catalog.config? name
  environment : s.catalog.environment = r.catalog.environment
  contexts : ∀ property, r.catalog.Reads key property →
    other.property? property = context.property? property
  defaults : ∀ property, r.catalog.Reads key property →
    s.catalog.defaults property = r.catalog.defaults property
  vars : s.vars = r.vars
  decrypter : s.decrypter = r.decrypter
  depth : s.depth = r.depth

/-- Every split that is reached from a key is decided by a property that is known. -/
def DecidedByProperty (r : Resolver) (context : Context) (key : String) : Prop :=
  ∀ config, r.catalog.ReachesConfig key config → ∀ split ∈ config.splits,
    (split.hashBy >>= r.lookup context).isSome

/-- Chance makes no difference between two resolvers: it decides nothing that is reached from a key,
or it gives both the same fractions. -/
def ChanceAlike (r s : Resolver) (context : Context) (key : String) : Prop :=
  r.DecidedByProperty context key ∨ s.chance = r.chance

variable {r s : Resolver} {context other : Context} {key : String}

/-- Resolvers that agree have catalogs and lookups that do. -/
theorem AgreeOn.catalogs (agree : r.AgreeOn s context other key) :
    r.catalog.AgreeOn s.catalog (r.lookup context) (s.lookup other) key where
  configs := agree.configs
  environment := agree.environment
  lookups property reads := by
    simp only [lookup, Lookup.first, List.findSome?_cons, List.findSome?_nil,
      agree.contexts property reads, agree.defaults property reads]

/-- Fractions of chance that have been taken do not matter to an agreement. -/
theorem AgreeOn.skip (agree : r.AgreeOn s context other key) (count : Nat) :
    (r.skip count).AgreeOn (s.skip count) context other key :=
  ⟨agree.configs, agree.environment, agree.contexts, agree.defaults, agree.vars, agree.decrypter,
    agree.depth⟩

/-- Chance stays alike when both resolvers have taken as many fractions. -/
theorem ChanceAlike.skip (alike : r.ChanceAlike s context key) (count : Nat) :
    (r.skip count).ChanceAlike (s.skip count) context key := by
  rcases alike with decided | same
  · exact .inl decided
  · right
    simp only [Resolver.skip, same]

/-- What is selected for a key that is reached is the same where the resolvers agree. -/
theorem selection?_frame (agree : r.AgreeOn s context other key) (name : String)
    (reached : r.catalog.Reaches key name) :
    s.selection? other name = r.selection? context name := by
  rw [selection?, selection?, agree.configs name reached, agree.depth]
  cases stored : r.catalog.config? name with
  | none => rfl
  | some config =>
    exact Catalog.evaluate_frame agree.catalogs r.depth config ⟨name, reached, stored⟩

/-- What decides a split that is reached has the same value where the resolvers agree. -/
theorem AgreeOn.hashed (agree : r.AgreeOn s context other key) (config : Config)
    (there : r.catalog.ReachesConfig key config) (split : Split Value)
    (among : split ∈ config.splits) :
    split.hashBy >>= s.lookup other = split.hashBy >>= r.lookup context := by
  cases named : split.hashBy with
  | none => rfl
  | some property =>
    have read : r.catalog.Reads key property :=
      ⟨config, there, List.mem_append_right _ (List.mem_filterMap.mpr ⟨split, among, named⟩)⟩
    exact agree.catalogs.lookups property read

/-- A value of a config that is reached is decided alike. -/
theorem choose_frame (agree : r.AgreeOn s context other key)
    (alike : r.ChanceAlike s context key) (config : Config)
    (there : r.catalog.ReachesConfig key config) (name : String) (rule : Rule)
    (among : rule ∈ config.rules) :
    s.choose other name rule.value = r.choose context name rule.value := by
  unfold choose
  cases isSplit : rule.value.split? with
  | none => rfl
  | some split =>
    have member : split ∈ config.splits := List.mem_filterMap.mpr ⟨rule, among, isSplit⟩
    have fraction : split.fraction name (s.lookup other) (s.chance 0) =
        split.fraction name (r.lookup context) (r.chance 0) := by
      unfold Split.fraction
      rw [agree.hashed config there split member]
      rcases alike with decided | same
      · obtain ⟨property, known⟩ := Option.isSome_iff_exists.mp (decided config there split member)
        rw [known]
      · rw [same]
    simp only [Split.pick?, fraction]

/-- What is decided on is one of the candidates of the config. -/
theorem choose_candidate (config : Config) (name : String) (rule : Rule) (arm : Option Nat)
    (value : Value) (among : rule ∈ config.rules)
    (chosen : r.choose context name rule.value = .ok (arm, value)) : value ∈ config.candidates := by
  rcases r.choose_ok context name rule.value value arm chosen with
    ⟨-, rfl⟩ | ⟨split, isSplit, a, member, rfl⟩
  · exact List.mem_append_left _ (List.mem_map.mpr ⟨rule, among, rfl⟩)
  · exact List.mem_append_right _ (List.mem_flatMap.mpr
      ⟨split, List.mem_filterMap.mpr ⟨rule, among, isSplit⟩, List.mem_map.mpr ⟨a, member, rfl⟩⟩)

/-- A value is settled alike with the same variables, if the key that it names is opened alike. -/
theorem settle_frame (vars : s.vars = r.vars) (opener opener' : Opener) (target : ValueType)
    (selected value : Value)
    (opens : ∀ name, value.decryptWith = some name → opener' name = opener name) :
    s.settle opener' target selected value = r.settle opener target selected value := by
  unfold settle
  split
  · simp only [provide, vars]
  · next sealed name _ named => rw [opens name named]
  · rfl

/-- A key that is reached is resolved alike, if the keys that are reached are opened alike. -/
theorem resolveWith_frame (agree : r.AgreeOn s context other key)
    (alike : r.ChanceAlike s context key) (name : String) (reached : r.catalog.Reaches key name)
    (opener opener' : Opener)
    (opens : ∀ secret, r.catalog.Reaches key secret → opener' secret = opener secret) :
    s.resolveWith opener' other name = r.resolveWith opener context name := by
  rw [resolveWith, resolveWith, agree.configs name reached, agree.depth]
  cases stored : r.catalog.config? name with
  | none => rfl
  | some config =>
    have there : r.catalog.ReachesConfig key config := ⟨name, reached, stored⟩
    simp only [Catalog.evaluate_frame agree.catalogs r.depth config there]
    cases matched : r.catalog.evaluate r.depth (r.lookup context) config with
    | none => rfl
    | some found =>
      have among : found.rule ∈ config.rules :=
        List.mem_flatMap.mpr (config.select?_mem _ _ found matched)
      simp only [choose_frame agree alike config there name found.rule among]
      cases chosen : r.choose context name found.rule.value with
      | error cause => rfl
      | ok choice =>
        obtain ⟨arm, value⟩ := choice
        have candidate := choose_candidate config name found.rule arm value among chosen
        have settled := settle_frame agree.vars opener opener' config.valueType found.rule.value
          value fun secret named => opens secret
            (.secret reached stored (List.mem_filterMap.mpr ⟨value, candidate, named⟩))
        simp only [bind, Except.bind, settled]

/-- As many fractions of chance are taken for a key that is reached. -/
theorem draws_frame (agree : r.AgreeOn s context other key) (name : String)
    (reached : r.catalog.Reaches key name) : s.draws other name = r.draws context name := by
  rw [draws, draws, selected?_eq, selected?_eq, selection?_frame agree name reached]
  cases selected : r.selection? context name with
  | none => rfl
  | some found =>
    cases isSplit : found.rule.value.split? with
    | none => simp [isSplit]
    | some split =>
      obtain ⟨config, stored, matched⟩ := Option.bind_eq_some_iff.mp selected
      have among : found.rule ∈ config.rules :=
        List.mem_flatMap.mpr (config.select?_mem _ _ found matched)
      have hashed := agree.hashed config ⟨name, reached, stored⟩ split
        (List.mem_filterMap.mpr ⟨found.rule, among, isSplit⟩)
      simp only [Option.bind_eq_bind] at hashed
      simp only [Option.map_some, Option.bind_eq_bind, Option.bind_some, isSplit, hashed]

/-- A key that is reached is resolved alike, however many keys may be resolved for it.

The induction is on that number. A secret's key is reached too, and both resolvers have then taken
as many fractions of chance. -/
theorem resolveAt_frame (left : Nat) (agree : r.AgreeOn s context other key)
    (alike : r.ChanceAlike s context key) (name : String)
    (reached : r.catalog.Reaches key name) :
    resolveAt other left s name = resolveAt context left r name := by
  induction left generalizing r s name with
  | zero =>
    rw [resolveAt_eq, resolveAt_eq]
    exact resolveWith_frame agree alike name reached _ _ fun _ _ => rfl
  | succ left inductionHypothesis =>
    rw [resolveAt_eq, resolveAt_eq]
    apply resolveWith_frame agree alike name reached
    intro secret there
    funext sealed
    have resolved := inductionHypothesis (agree.skip (r.draws context name))
      (alike.skip (r.draws context name)) secret there
    simp only [openerAt, openWith, draws_frame agree name reached, resolved, agree.decrypter]

end Resolver

namespace Live

/-- Records of other keys do not touch what is kept for a key. -/
theorem take_elsewhere (l : Live) (records : List Config) (key : String)
    (absent : ∀ c ∈ records, c.key ≠ key) :
    (records.foldl take l).records[key]? = l.records[key]? := by
  induction records generalizing l with
  | nil => rfl
  | cons c rest inductionHypothesis =>
    obtain ⟨own, others⟩ := List.forall_mem_cons.mp absent
    rw [List.foldl_cons, inductionHypothesis (l.take c) others, take_kept]
    simp [own]

/-- A snapshot without records of a key does not change what the key is served. -/
theorem apply_elsewhere (l : Live) (snapshot : Snapshot) (key : String)
    (absent : ∀ c ∈ snapshot.configs, c.key ≠ key) :
    (l.apply snapshot).1.config? key = l.config? key := by
  simp only [apply, take_all_store, config?, take_elsewhere _ snapshot.configs key absent]

end Live

namespace Store

/-- A store, and the same store once live stores in it have taken in a snapshot that brings them
neither another environment nor another default context. -/
inductive Receives (snapshot : Snapshot) : Store → Store → Prop
  | untouched (store : Store) : Receives snapshot store store
  | live (l : Live) (environment : l.nextEnvironment snapshot = l.environment)
      (defaults : snapshot.defaultContext.getD l.defaultContext = l.defaultContext) :
      Receives snapshot (.live l) (.live (l.apply snapshot).1)
  | layers (stores : List (Store × Store))
      (each : ∀ pair ∈ stores, Receives snapshot pair.1 pair.2) :
      Receives snapshot (.layers (stores.map Prod.fst)) (.layers (stores.map Prod.snd))

/-- Questions that go to the first store that has an answer are answered alike by two lists of
stores whose members answer them alike. -/
theorem first_alike {α : Type} (answer : Store → Option α) (stores : List (Store × Store))
    (alike : ∀ pair ∈ stores, answer pair.2 = answer pair.1) :
    (stores.map Prod.snd).findSome? answer = (stores.map Prod.fst).findSome? answer := by
  induction stores with
  | nil => rfl
  | cons pair rest inductionHypothesis =>
    obtain ⟨here, later⟩ := List.forall_mem_cons.mp alike
    rw [List.map_cons, List.map_cons, List.findSome?_cons, List.findSome?_cons, here,
      inductionHypothesis later]

/-- Such a snapshot changes only what the keys of its records are served. -/
theorem Receives.elsewhere {snapshot : Snapshot} {store next : Store}
    (received : store.Receives snapshot next) :
    (∀ key, (∀ c ∈ snapshot.configs, c.key ≠ key) → next.config? key = store.config? key) ∧
      next.environment = store.environment ∧
      ∀ name, next.default? name = store.default? name := by
  induction received with
  | untouched store => exact ⟨fun _ _ => rfl, rfl, fun _ => rfl⟩
  | live l environment defaults =>
    obtain ⟨environment', defaults', -⟩ := l.apply_surroundings snapshot
    refine ⟨fun key absent => l.apply_elsewhere snapshot key absent,
      environment'.trans environment, ?_⟩
    intro name
    simp only [default?, defaults', defaults]
  | layers stores _ each =>
    refine ⟨?_, ?_, ?_⟩
    · intro key absent
      simp only [config?, firstConfig?_eq]
      exact first_alike _ stores fun pair member => (each pair member).1 key absent
    · simp only [environment, firstEnvironment_eq]
      exact first_alike _ stores fun pair member => (each pair member).2.1
    · intro name
      simp only [default?, firstDefault?_eq]
      exact first_alike _ stores fun pair member => (each pair member).2.2 name

end Store

namespace Resolver

/-- A resolution depends only on what it reaches. Two resolvers give the same resolution of a key,
or the same error, if they agree on the configs of the keys that are reached from it, on the
properties that these configs read and on the environment, and if chance makes no difference.

So a resolution stays as it is when live stores take in a snapshot that brings none of the keys that
are reached, no other environment and no other default context. -/
theorem resolve_depends_on_reached :
    (∀ (r s : Resolver) (context other : Context) (key : String),
      r.AgreeOn s context other key → r.ChanceAlike s context key →
        s.resolve other key = r.resolve context key) ∧
    ∀ (r : Resolver) (store next : Store) (snapshot : Snapshot) (context : Context) (key : String),
      r.catalog = store.catalog → store.Receives snapshot next →
      (∀ c ∈ snapshot.configs, ¬r.catalog.Reaches key c.key) →
        { r with catalog := next.catalog }.resolve context key = r.resolve context key := by
  have depends (r s : Resolver) (context other : Context) (key : String)
      (agree : r.AgreeOn s context other key) (alike : r.ChanceAlike s context key) :
      s.resolve other key = r.resolve context key := by
    rw [resolve, resolve, agree.depth]
    exact resolveAt_frame r.depth agree alike key .self
  refine ⟨depends, ?_⟩
  intro r store next snapshot context key served received elsewhere
  obtain ⟨configs, environment, defaults⟩ := received.elsewhere
  refine depends r { r with catalog := next.catalog } context context key ?_ (.inr rfl)
  refine ⟨?_, ?_, fun _ _ => rfl, ?_, rfl, rfl, rfl⟩
  · intro name reached
    rw [served]
    apply configs
    rintro c member rfl
    exact elsewhere c member reached
  · rw [served]
    exact environment
  · intro property _
    rw [served]
    exact defaults property

/-- A flag for a segment, split by a property into one arm, which is a secret. -/
def banner : Config where
  key := "banner"
  rows := [{ rules := [{
    criteria := [{ operator := .inSegment, target := some { payload := .text "beta" } }]
    value := { payload := .split { hashBy := some "user.key", arms := [
      { weight := 1, value := { payload := .text "c", decryptWith := some "master" } }] } } }] }]

/-- A segment by another property. -/
def beta : Config where
  key := "beta"
  rows := [{ rules := [{
    criteria := [{ operator := .startsWith, property := "user.plan",
                   target := some { payload := .text "pro" } }]
    value := { payload := .bool true } }] }]

/-- The key of the secret. -/
def master : Config :=
  .constant 0 "master" { payload := .text "k" }

/-- A fresh live store over a table with the flag and all that it reaches. -/
def bannerStore : Store :=
  .layers [.live {}, .ofConfigs [banner, beta, master]]

/-- A context with the properties that the flag reads. -/
def subscriber : Context :=
  .ofGroups [("user", .ofPairs [("key", { payload := .text "u-1" }),
    ("plan", { payload := .text "pro" })])]

/-- The flag reaches its segment and the key of its secret. -/
theorem banner_reaches (name : String) (reached : bannerStore.catalog.Reaches "banner" name) :
    ∃ config, (config = banner ∨ config = beta ∨ config = master) ∧ config.key = name ∧
      bannerStore.catalog.config? name = some config := by
  apply Catalog.reaches_within bannerStore.catalog "banner" _ _ _ name reached
  · exact ⟨banner, .inl rfl, rfl, rfl⟩
  · rintro via config ⟨_, among, rfl, stored⟩ stored' name named
    obtain rfl := Option.some.inj (stored.symm.trans stored')
    rcases among with rfl | rfl | rfl
    · rcases named with segment | secret
      · exact ⟨beta, .inr (.inl rfl), (List.mem_singleton.mp segment).symm,
          List.mem_singleton.mp segment ▸ rfl⟩
      · exact ⟨master, .inr (.inr rfl), (List.mem_singleton.mp secret).symm,
          List.mem_singleton.mp secret ▸ rfl⟩
    · rcases named with segment | secret
      · exact absurd segment List.not_mem_nil
      · exact absurd secret List.not_mem_nil
    · rcases named with segment | secret
      · exact absurd segment List.not_mem_nil
      · exact absurd secret List.not_mem_nil

/-- The flag reads the property of its split and the one of its segment. -/
theorem banner_reads (property : String) (reads : bannerStore.catalog.Reads "banner" property) :
    property = "user.key" ∨ property = "user.plan" := by
  obtain ⟨config, ⟨name, reached, stored⟩, read⟩ := reads
  obtain ⟨_, among, -, same⟩ := banner_reaches name reached
  obtain rfl := Option.some.inj (stored.symm.trans same)
  rcases among with rfl | rfl | rfl
  · exact .inl (List.mem_singleton.mp read)
  · exact .inr (List.mem_singleton.mp read)
  · exact absurd read List.not_mem_nil

/-- Another store, another group of the context and other fractions of chance make no difference to
the flag, and neither does a record of another key. -/
theorem banner_unmoved :
    Resolver.resolve { catalog := (Store.ofConfigs [banner, beta, master]).catalog,
                       chance := fun _ => 1 } (subscriber.setGroup "device" ∅) "banner" =
        Resolver.resolve { catalog := bannerStore.catalog } subscriber "banner" ∧
      Resolver.resolve { catalog := (Store.layers [
          .live (Live.apply {} { configs := [{ id := 1, key := "other", rows := [{}] }] }).1,
          .ofConfigs [banner, beta, master]]).catalog } subscriber "banner" =
        Resolver.resolve { catalog := bannerStore.catalog } subscriber "banner" := by
  obtain ⟨depends, frame⟩ := resolve_depends_on_reached
  constructor
  · apply depends { catalog := bannerStore.catalog }
    · refine ⟨?_, rfl, ?_, ?_, rfl, rfl, rfl⟩
      · intro name reached
        obtain ⟨config, among, rfl, stored⟩ := banner_reaches name reached
        rw [stored]
        rcases among with rfl | rfl | rfl <;> rfl
      · intro property reads
        rcases banner_reads property reads with rfl | rfl <;> rfl
      · intro property reads
        rcases banner_reads property reads with rfl | rfl <;> rfl
    · left
      rintro config ⟨name, reached, stored⟩ split member
      obtain ⟨_, among, -, same⟩ := banner_reaches name reached
      obtain rfl := Option.some.inj (stored.symm.trans same)
      rcases among with rfl | rfl | rfl
      · rw [List.mem_singleton.mp member]
        rfl
      · exact absurd member List.not_mem_nil
      · exact absurd member List.not_mem_nil
  · apply frame { catalog := bannerStore.catalog } bannerStore _
      { configs := [{ id := 1, key := "other", rows := [{}] }] } subscriber "banner" rfl
    · apply Store.Receives.layers [(.live {}, .live _), (.ofConfigs [banner, beta, master], _)]
      simp only [List.forall_mem_cons]
      exact ⟨.live {} rfl rfl, .untouched _, by simp⟩
    · intro c member reached
      obtain rfl := List.mem_singleton.mp member
      obtain ⟨config, among, same, -⟩ := banner_reaches _ reached
      rcases among with rfl | rfl | rfl <;> exact absurd same (by decide)

end Resolver

end LiveConfig
