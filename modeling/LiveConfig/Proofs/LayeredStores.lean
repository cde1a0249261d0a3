import LiveConfig.Proofs.EvaluationReads
import LiveConfig.Proofs.ResolutionCourse

/-!
# Layered stores

Layers are asked for a config, for a property of the default context and for the environment, and
each question goes to the first store that has an answer to it. The answers need not come from one
store. A store that is bound to an environment but lacks a key leaves the key to the stores behind
it, and yet their configs are evaluated in its environment.

`layers_select_for_holder` says what follows for a key: layers select what the store that holds the
key would select alone if it were bound to the environment of the layers. That is its own unless a
store before it is bound to another one, and `earlier_binding_prevails` shows that this can be so.
-/

namespace LiveConfig

namespace Store

/-- The config of a key in layers is that of the first store that has one. -/
theorem firstConfig?_eq (key : String) (stores : List Store) :
    firstConfig? key stores = stores.findSome? (·.config? key) := by
  induction stores with
  | nil => rfl
  | cons store rest inductionHypothesis =>
    rw [firstConfig?, inductionHypothesis, List.findSome?_cons]
    cases store.config? key <;> rfl

/-- A property of the default context of layers is that of the first store that has it. -/
theorem firstDefault?_eq (name : String) (stores : List Store) :
    firstDefault? name stores = stores.findSome? (·.default? name) := by
  induction stores with
  | nil => rfl
  | cons store rest inductionHypothesis =>
    rw [firstDefault?, inductionHypothesis, List.findSome?_cons]
    cases store.default? name <;> rfl

/-- The environment of layers is that of the first store that is bound to one. -/
theorem firstEnvironment_eq (stores : List Store) :
    firstEnvironment stores = stores.findSome? (·.environment) := by
  induction stores with
  | nil => rfl
  | cons store rest inductionHypothesis =>
    rw [firstEnvironment, inductionHypothesis, List.findSome?_cons]
    cases store.environment <;> rfl

/-- Layers have the config of a key from the store that is the first to hold the key. -/
theorem layers_config? (before after : List Store) (holder : Store) (key : String) (config : Config)
    (first : ∀ store ∈ before, store.config? key = none)
    (held : holder.config? key = some config) :
    (Store.layers (before ++ holder :: after)).config? key = some config := by
  rw [config?, firstConfig?_eq, List.findSome?_eq_some_iff]
  exact ⟨before, holder, after, rfl, held, first⟩

/-- Layers are bound to the environment of one of their stores if no store before it is bound to
another one. -/
theorem layers_environment (before after : List Store) (store : Store) (e : Int64)
    (bound : store.environment = some e)
    (unrivalled : ∀ other ∈ before, ∀ e', other.environment = some e' → e' = e) :
    (Store.layers (before ++ store :: after)).environment = some e := by
  rw [environment, firstEnvironment_eq, List.findSome?_append]
  cases earlier : before.findSome? (·.environment) with
  | none => rw [Option.none_or, List.findSome?_cons_of_isSome (by simp [bound]), bound]
  | some e' =>
    obtain ⟨other, member, hit⟩ := List.exists_of_findSome?_eq_some earlier
    rw [unrivalled other member e' hit, Option.some_or]

end Store

namespace Resolver

/-- What is selected for a key, whether or not the value can be settled. -/
def selection? (r : Resolver) (context : Context) (key : String) : Option Selection := do
  let config ← r.catalog.config? key
  r.catalog.evaluate r.depth (r.lookup context) config

/-- A resolver whose store is bound to an environment, whatever it was bound to before. -/
def inEnvironment (r : Resolver) (environment : Option Int64) : Resolver :=
  { r with catalog := { r.catalog with environment } }

/-- The value that is selected is that of the selected rule. -/
theorem selected?_eq (r : Resolver) (context : Context) (key : String) :
    r.selected? context key = (r.selection? context key).map fun found => found.rule.value := by
  cases stored : r.catalog.config? key with
  | none => simp [selected?, selection?, stored]
  | some config =>
    cases matched : r.catalog.evaluate r.depth (r.lookup context) config <;>
      simp [selected?, selection?, stored, matched]

/-- A resolution reports what is selected for its key. -/
theorem resolve_selection (r : Resolver) (context : Context) (key : String)
    (resolution : Resolution) (resolved : r.resolve context key = .ok resolution) :
    resolution.selection = r.selection? context key := by
  rw [resolve, resolveAt_eq, resolveWith] at resolved
  cases stored : r.catalog.config? key with
  | none => simp [stored] at resolved
  | some config =>
    simp only [stored] at resolved
    simp only [selection?, stored, Option.bind_eq_bind, Option.bind_some]
    cases matched : r.catalog.evaluate r.depth (r.lookup context) config with
    | none =>
      simp only [matched, Except.ok.injEq] at resolved
      rw [← resolved]
    | some found =>
      simp only [matched, Outcome.bind_ok_iff] at resolved
      obtain ⟨choice, -, value, -, returned⟩ := resolved
      rw [← Except.ok.inj returned]

/-- A config that enters no segment is selected from alike in two catalogs that are bound to one
environment, if the properties that it tests have the same values. -/
theorem selection?_plain (r s : Resolver) (context other : Context) (key : String)
    (config : Config) (stored : r.catalog.config? key = some config)
    (storedOther : s.catalog.config? key = some config) (plain : config.segments = [])
    (environment : r.catalog.environment = s.catalog.environment)
    (agree : ∀ property ∈ config.tested, r.lookup context property = s.lookup other property) :
    r.selection? context key = s.selection? other key := by
  simp only [selection?, stored, storedOther, Option.bind_eq_bind, Option.bind_some,
    Catalog.evaluate, environment]
  apply config.select?_congr
  · intro name named
    rw [plain] at named
    contradiction
  · exact agree

/-- If a rule matches in the row for the environment of the catalog, it is selected. A config that
enters no segment needs no catalog to tell which rules match. -/
theorem selection?_own_row (r : Resolver) (context : Context) (key : String) (config : Config)
    (row : Row) (found : Selection) (stored : r.catalog.config? key = some config)
    (plain : config.segments = []) (own : config.rowFor? r.catalog.environment = some row)
    (picked : row.select? (·.holds (fun _ => none) (r.lookup context)) 0 = some found) :
    r.selection? context key = some found := by
  have tried : r.selection? context key = config.select? r.catalog.environment
      (·.holds (fun _ => none) (r.lookup context)) := by
    simp only [selection?, stored, Option.bind_eq_bind, Option.bind_some, Catalog.evaluate]
    apply config.select?_congr
    · intro name named
      rw [plain] at named
      contradiction
    · exact fun _ _ => rfl
  rw [tried, Config.select?, own]
  simp only [picked]
  rfl

/-- What layers select for a key that one of their stores is the first to hold, where the key's
config enters no segment. It is what that store alone would select if it were bound to the
environment of the first store that is bound to any.

So if no store before the holder is bound to another environment than the holder, the row for the
holder's environment is tried first, the same is selected as from the holder alone, and resolutions
of the key report the same. -/
theorem layers_select_for_holder (r s : Resolver) (before after : List Store) (holder : Store)
    (layered : r.catalog = (Store.layers (before ++ holder :: after)).catalog)
    (alone : s.catalog = holder.catalog) (context other : Context) (key : String) (config : Config)
    (first : ∀ store ∈ before, store.config? key = none) (held : holder.config? key = some config)
    (plain : config.segments = [])
    (agree : ∀ property ∈ config.tested, r.lookup context property = s.lookup other property) :
    (∀ earlier bound later e, before ++ holder :: after = earlier ++ bound :: later →
      (∀ store ∈ earlier, store.environment = none) → bound.environment = some e →
      r.selection? context key = (s.inEnvironment (some e)).selection? other key) ∧
    ∀ e, holder.environment = some e →
      (∀ store ∈ before, ∀ e', store.environment = some e' → e' = e) →
      r.selection? context key = s.selection? other key ∧
      (∀ row found, config.rowFor? (some e) = some row →
        row.select? (·.holds (fun _ => none) (r.lookup context)) 0 = some found →
        r.selection? context key = some found) ∧
      ∀ through direct, r.resolve context key = .ok through → s.resolve other key = .ok direct →
        through.selection = direct.selection := by
  have stored : r.catalog.config? key = some config := by
    rw [layered]
    exact Store.layers_config? before after holder key config first held
  have storedAlone : s.catalog.config? key = some config := by
    rw [alone]
    exact held
  constructor
  · intro earlier bound later e split unbound binding
    apply selection?_plain r (s.inEnvironment (some e)) context other key config stored storedAlone
      plain
    · rw [layered, split]
      exact Store.layers_environment earlier later bound e binding fun store member e' there => by
        rw [unbound store member] at there
        contradiction
    · exact agree
  · intro e binding unrivalled
    have environment : r.catalog.environment = some e := by
      rw [layered]
      exact Store.layers_environment before after holder e binding unrivalled
    have same : r.selection? context key = s.selection? other key := by
      apply selection?_plain r s context other key config stored storedAlone plain
      · rw [environment, alone]
        exact binding.symm
      · exact agree
    refine ⟨same, ?_, ?_⟩
    · intro row found own picked
      apply r.selection?_own_row context key config row found stored plain ?_ picked
      rw [environment]
      exact own
    · intro through direct resolved resolvedAlone
      rw [r.resolve_selection context key through resolved,
        s.resolve_selection other key direct resolvedAlone, same]

/-- A config with a value for the environment 2 and one for all others. -/
def localized : Config where
  key := "k"
  rows := [{ environment := some 2, rules := [{ value := { payload := .text "own" } }] },
    { rules := [{ value := { payload := .text "any" } }] }]

/-- Behind an unbound store the config is evaluated in the environment of its own store. -/
theorem unbound_layer_yields :
    Resolver.selection?
        { catalog := (Store.layers [.ofConfigs [], .ofConfigs [localized] (some 2)]).catalog }
        ∅ "k" =
      some { row := 0, index := 0, rule := { value := { payload := .text "own" } } } := by
  have selected := (layers_select_for_holder
    { catalog := (Store.layers [.ofConfigs [], .ofConfigs [localized] (some 2)]).catalog }
    { catalog := (Store.ofConfigs [localized] (some 2)).catalog } [.ofConfigs []] []
    (.ofConfigs [localized] (some 2)) rfl rfl ∅ ∅ "k" localized (by simp; rfl) rfl rfl
    (by simp [localized, Config.tested, Config.rules])).2 2 rfl (by simp; nofun)
  exact selected.2.1 _ _ rfl rfl

/-- A store that is bound to an environment decides in which environment the configs of the stores
behind it are evaluated, even if it holds none itself. -/
theorem earlier_binding_prevails :
    ¬∀ (before after : List Store) (holder : Store) (context : Context) (key : String)
      (config : Config) (e : Int64), (∀ store ∈ before, store.config? key = none) →
      holder.config? key = some config → holder.environment = some e → config.segments = [] →
      (∀ property ∈ config.tested,
        (Store.layers (before ++ holder :: after)).default? property =
          holder.default? property) →
      Resolver.selection? { catalog := (Store.layers (before ++ holder :: after)).catalog }
          context key =
        Resolver.selection? { catalog := holder.catalog } context key := by
  intro own
  have same := own [.ofConfigs [] (some 1)] [] (.ofConfigs [localized] (some 2)) ∅ "k" localized 2
    (by simp; rfl) rfl rfl rfl (by simp [localized, Config.tested, Config.rules])
  have through : Resolver.selection? { catalog := (Store.layers
      [.ofConfigs [] (some 1), .ofConfigs [localized] (some 2)]).catalog } ∅ "k" =
    some { row := 0, index := 0, rule := { value := { payload := .text "any" } } } := rfl
  have alone : Resolver.selection? { catalog := (Store.ofConfigs [localized] (some 2)).catalog } ∅
      "k" = some { row := 0, index := 0, rule := { value := { payload := .text "own" } } } := rfl
  rw [List.singleton_append, through, alone] at same
  simp at same

end Resolver

end LiveConfig
