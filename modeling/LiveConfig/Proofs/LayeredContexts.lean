import Mathlib.Data.List.Induction
import LiveConfig.Proofs.ClientRuns
import LiveConfig.Proofs.CriterionTargets
import LiveConfig.Proofs.RuleSelection

/-!
# Layered contexts

The contexts of a call are laid over one another: the client's own, those bound to it one after the
other, and the call's. Layers replace groups whole, but behind all of them each property by itself
falls through to the default context of the service. So a group that is replaced by one with fewer
properties shows the service's values for the others, and never those of the layers below.

`ReadsLayers` says this without laying anything over anything. `reads_layers` holds for every client
at every time; it also says that nothing else of the contexts counts for a resolution, with all its
segments, splits and secrets, and that contexts may be bound one by one or several in one.
-/

namespace LiveConfig

open Client (Act)

/-- A name addresses a property of a group: they stand around its first dot, or the name has no dot
and is a property of the group without a name. -/
def Addresses (name group property : String) : Prop :=
  '.' ∉ group.toList ∧
    (name = group ++ "." ++ property ∨ group = "" ∧ name = property ∧ '.' ∉ name.toList)

/-- What is read where contexts lie over one another, the last one on top, and all of them over a
default context. -/
structure ReadsLayers (layers : List Context) (defaults : Context) (reading : Lookup) : Prop where
  /-- The topmost layer that has the group is the only one that counts. -/
  topmost : ∀ name group property, Addresses name group property →
    ∀ below layer above properties, layers = below ++ layer :: above →
      layer[group]? = some properties → (∀ other ∈ above, other[group]? = none) →
      reading name = properties[property]?.or (defaults[group]? >>= (·[property]?))
  absent : ∀ name group property, Addresses name group property →
    (∀ layer ∈ layers, layer[group]? = none) → reading name = defaults[group]? >>= (·[property]?)

/-- A property is split as it is addressed. -/
theorem splitProperty_eq (name group property : String)
    (addresses : Addresses name group property) : splitProperty name = (group, property) := by
  obtain ⟨noDot, rfl | ⟨rfl, rfl, single⟩⟩ := addresses
  · have split : Text.splitFirst '.' (group ++ "." ++ property).toList =
        some (group.toList, property.toList) :=
      Text.splitFirst_eq_some_iff.mpr ⟨by simp, noDot⟩
    simp only [splitProperty, split, String.ofList_toList]
  · rw [splitProperty, Text.splitFirst_eq_none_iff.mpr single]

namespace Context

/-- A property that is addressed is looked for in its group. -/
theorem property?_eq (context : Context) (name group property : String)
    (addresses : Addresses name group property) :
    context.property? name = context[group]? >>= (·[property]?) := by
  rw [property?, splitProperty_eq name group property addresses]

/-- The topmost layer that has a group gives it. -/
theorem layered_getElem? (layers : List Context) (group : String) :
    (layered layers)[group]? = layers.reverse.findSome? (·[group]?) := by
  induction layers using List.reverseRecOn with
  | nil => simp [layered]
  | append_singleton below top inductionHypothesis =>
    have step : layered (below ++ [top]) = (layered below).overlay top := by simp [layered]
    rw [step, overlay, Std.ExtTreeMap.getElem?_union, inductionHypothesis, List.reverse_append,
      List.reverse_singleton, List.singleton_append, List.findSome?_cons]
    cases top[group]? <;> rfl

/-- Layers over others are as many layers. -/
theorem layered_append (below above : List Context) :
    layered (below ++ above) = (layered below).overlay (layered above) := by
  refine Std.ExtTreeMap.ext_getElem? fun group => ?_
  rw [overlay, Std.ExtTreeMap.getElem?_union, layered_getElem?, layered_getElem?, layered_getElem?,
    List.reverse_append, List.findSome?_append]

/-- A single layer lies over nothing. -/
theorem layered_singleton (context : Context) : layered [context] = context := by
  refine Std.ExtTreeMap.ext_getElem? fun group => ?_
  rw [layered_getElem?, List.reverse_singleton, List.findSome?_singleton]

/-- It makes no difference in which parts layers are laid over one another. -/
theorem layered_flatten (parts : List (List Context)) :
    layered (parts.map layered) = layered parts.flatten := by
  induction parts with
  | nil => rfl
  | cons part rest inductionHypothesis =>
    rw [List.map_cons, ← List.singleton_append, layered_append, layered_singleton,
      inductionHypothesis, List.flatten_cons, layered_append]

end Context

/-- Segments serve the same whatever a catalog has for defaults, since they read properties from the
lookup that they are given. -/
theorem Catalog.segment_defaults (catalog : Catalog) (defaults lookup : Lookup) (depth : Nat) :
    ({ catalog with defaults } : Catalog).segment lookup depth = catalog.segment lookup depth := by
  induction depth with
  | zero => rfl
  | succ depth inductionHypothesis =>
    funext key
    rw [segment, segment, inductionHypothesis]

namespace Resolver

/-- A resolver that reads properties from a lookup and from nowhere else. -/
def readingOnly (r : Resolver) (reading : Lookup) : Resolver :=
  { r with catalog := { r.catalog with defaults := reading } }

variable (r : Resolver) (context : Context)

/-- Properties that a context lacks are read from the defaults. -/
theorem lookup_eq (name : String) :
    r.lookup context name = (context.property? name).or (r.catalog.defaults name) := by
  simp only [lookup, Lookup.first, List.findSome?_cons, List.findSome?_nil]
  cases context.property? name <;> cases r.catalog.defaults name <;> rfl

/-- Without a context, nothing but the lookup is read. -/
theorem readingOnly_lookup (reading : Lookup) : (r.readingOnly reading).lookup ∅ = reading := by
  funext name
  rw [lookup_eq, Context.empty_property?, Option.none_or]
  rfl

/-- A rule is selected by what the lookup of a context gives. -/
theorem selected?_readingOnly (key : String) :
    (r.readingOnly (r.lookup context)).selected? ∅ key = r.selected? context key := by
  simp only [selected?, readingOnly_lookup, Catalog.evaluate]
  simp only [readingOnly, Catalog.segment_defaults]

/-- A value is decided by what the lookup of a context gives. -/
theorem choose_readingOnly (key : String) (selected : Value) :
    (r.readingOnly (r.lookup context)).choose ∅ key selected = r.choose context key selected := by
  simp only [choose, readingOnly_lookup]
  rfl

/-- As many fractions of chance are taken. -/
theorem draws_readingOnly (key : String) :
    (r.readingOnly (r.lookup context)).draws ∅ key = r.draws context key := by
  simp only [draws, selected?_readingOnly, readingOnly_lookup]

/-- A key is resolved by what the lookup of a context gives, if secrets are opened alike. -/
theorem resolveWith_readingOnly (opener : Opener) (key : String) :
    (r.readingOnly (r.lookup context)).resolveWith opener ∅ key =
      r.resolveWith opener context key := by
  simp only [resolveWith, choose_readingOnly, readingOnly_lookup, Catalog.evaluate]
  simp only [readingOnly, Catalog.segment_defaults]
  rfl

/-- The properties that the lookup of a context gives are all that counts of it and of the default
context. The induction is on the number of keys that may still be resolved for secrets, which are
resolved with the same context. -/
theorem resolveAt_readingOnly (left : Nat) (key : String) :
    resolveAt ∅ left (r.readingOnly (r.lookup context)) key = resolveAt context left r key := by
  induction left generalizing r key with
  | zero => exact r.resolveWith_readingOnly context _ key
  | succ left inductionHypothesis =>
    have rest (name : String) :
        resolveAt ∅ left ((r.readingOnly (r.lookup context)).skip (r.draws context key)) name =
          resolveAt context left (r.skip (r.draws context key)) name :=
      inductionHypothesis (r.skip (r.draws context key)) name
    simp only [resolveAt, draws_readingOnly, rest]
    exact r.resolveWith_readingOnly context _ key

end Resolver

/-- A layer that has no default context: the store of a document, of a dump or of values. -/
def Layer.IsTable (layer : Layer) : Prop :=
  ∃ configs environment, layer = .fixed (.table configs environment)

namespace Client

/-! ## The default context of a client -/

section Layers

variable {options : Options} {files : Files}

/-- The layers of a directory are tables. -/
theorem documentsIn_tables (directory : String) (layers : List Layer)
    (loaded : documentsIn options files directory = .ok layers) :
    ∀ layer ∈ layers, layer.IsTable := by
  rw [documentsIn, Outcome.bind_ok_iff] at loaded
  obtain ⟨stores, read, made⟩ := loaded
  obtain rfl := Except.ok.inj made
  intro layer member
  obtain ⟨store, among, rfl⟩ := List.mem_map.mp member
  obtain ⟨found, listed, rfl : found = some store⟩ := List.mem_filterMap.mp among
  obtain ⟨path, -, loaded⟩ := Outcome.mem_of_mapM_ok _ _ _ read _ listed
  rw [documentAt] at loaded
  split at loaded
  next content _ =>
    split at loaded
    next text _ =>
      simp only [Store.ofDocument, Outcome.map_ok_iff] at loaded
      obtain ⟨_, ⟨configs, -, rfl⟩, same⟩ := loaded
      exact ⟨_, _, congrArg Layer.fixed (Option.some.inj same).symm⟩
    next => cases loaded
  next => cases loaded

/-- The layers of a supply are the service, if it is the service, or tables. -/
theorem layersOf_tables (supply : Supply) (layers : List Layer)
    (loaded : layersOf options files supply = .ok layers) :
    ∀ layer ∈ layers, layer = .service ∨ layer.IsTable := by
  cases supply with
  | service =>
    obtain rfl := Except.ok.inj loaded
    exact fun layer member => .inl (List.mem_singleton.mp member)
  | localFiles =>
    exact fun layer member => .inr (documentsIn_tables options.directory layers loaded layer member)
  | dump path environment =>
    simp only [layersOf, Outcome.map_ok_iff] at loaded
    obtain ⟨store, read, rfl⟩ := loaded
    intro layer member
    obtain rfl := List.mem_singleton.mp member
    rw [dumpAt] at read
    split at read
    · cases read
    · cases read
    · rw [Store.ofDump] at read
      split at read
      · obtain rfl := Except.ok.inj read
        exact .inr ⟨_, _, rfl⟩
      · cases read
  | values values =>
    obtain rfl := Except.ok.inj loaded
    intro layer member
    obtain rfl := List.mem_singleton.mp member
    exact .inr ⟨_, _, rfl⟩

/-- All layers of a client but the service are tables, and the service is among them if the options
use it. -/
theorem allLayers_ok (layers : List Layer) (loaded : allLayers options files = .ok layers) :
    (∀ layer ∈ layers, layer = .service ∨ layer.IsTable) ∧
      (options.usesService = true → .service ∈ layers) := by
  simp only [allLayers, Outcome.bind_ok_iff] at loaded
  obtain ⟨overrides, before, supplied, after, made⟩ := loaded
  obtain rfl := Except.ok.inj made
  constructor
  · intro layer member
    rcases List.mem_append.mp member with early | late
    · right
      rw [overrideLayers] at before
      split at before
      · obtain rfl := Except.ok.inj before
        contradiction
      · exact documentsIn_tables _ overrides before layer early
    · obtain ⟨some, among, inside⟩ := List.mem_flatten.mp late
      obtain ⟨supply, -, loaded⟩ := Outcome.mem_of_mapM_ok _ _ _ after some among
      exact layersOf_tables supply some loaded layer inside
  · intro uses
    obtain ⟨supply, listed, isService⟩ := List.any_eq_true.mp uses
    obtain rfl : supply = .service := by
      cases supply <;> first | rfl | contradiction
    obtain ⟨own, among, loaded⟩ := Outcome.exists_of_mapM_ok _ _ _ after .service listed
    obtain rfl : [.service] = own := Except.ok.inj loaded
    exact List.mem_append_right _ (List.mem_flatten.mpr ⟨_, among, List.mem_singleton_self _⟩)

end Layers

/-- The default context that the service has delivered; without a service it is empty. -/
def serviceContext (c : Client) : Context :=
  (c.live.map (·.defaultContext)).getD ∅

/-- A property of the default context of the stores is one of the service's default context. -/
theorem store_default? (c : Client)
    (tables : ∀ layer ∈ c.layers, layer = .service ∨ layer.IsTable)
    (listed : c.live.isSome = true → .service ∈ c.layers) (name : String) :
    c.store.default? name = c.serviceContext.property? name := by
  have asked : c.store.default? name =
      c.layers.findSome? fun layer => (layerStore (c.live.getD {}) layer).default? name := by
    show Store.firstDefault? name (c.layers.map (layerStore (c.live.getD {}))) = _
    rw [Store.firstDefault?_eq, List.findSome?_map]
    rfl
  have own (layer : Layer) (member : layer ∈ c.layers) (v : Value)
      (has : (layerStore (c.live.getD {}) layer).default? name = some v) :
      c.serviceContext.property? name = some v := by
    rcases tables layer member with rfl | ⟨configs, environment, rfl⟩
    · rw [← has]
      cases service : c.live <;> simp [serviceContext, service, layerStore, Store.default?]
    · simp [layerStore, Store.default?] at has
  rw [asked]
  cases found : c.layers.findSome? fun layer =>
      (layerStore (c.live.getD {}) layer).default? name with
  | some v =>
    obtain ⟨layer, member, has⟩ := List.exists_of_findSome?_eq_some found
    exact (own layer member v has).symm
  | none =>
    cases service : c.live with
    | none => simp [serviceContext, service, Context.empty_property?]
    | some live =>
      have absent := List.findSome?_eq_none_iff.mp found .service (listed (by simp [service]))
      simpa [serviceContext, service, layerStore, Store.default?] using absent.symm

/-- The context of a call is made of the client's own context, those that are bound to it and the
call's. -/
theorem callContext_eq (c : Client) (bound : List Context) (context : Context) :
    c.callContext bound context =
      Context.layered (c.options.globalContext :: (bound ++ [context])) := by
  rw [callContext, ← List.singleton_append, Context.layered_append, Context.layered_append,
    Context.layered_singleton, Context.layered_singleton]

/-- Where the criteria and the splits of a call read properties. -/
def reading (c : Client) (bound : List Context) (context : Context) : Lookup :=
  c.resolver.lookup (c.callContext bound context)

/-- The layers of a call are read, and behind them the service's default context. -/
theorem reading_layers (c : Client) (tables : ∀ layer ∈ c.layers, layer = .service ∨ layer.IsTable)
    (listed : c.live.isSome = true → .service ∈ c.layers) (bound : List Context)
    (context : Context) :
    ReadsLayers (c.options.globalContext :: (bound ++ [context])) c.serviceContext
      (c.reading bound context) := by
  have reads (name group property : String) (addresses : Addresses name group property) :
      c.reading bound context name =
        ((c.options.globalContext :: (bound ++ [context])).reverse.findSome? (·[group]?) >>=
          (·[property]?)).or (c.serviceContext[group]? >>= (·[property]?)) := by
    rw [← Context.layered_getElem?, ← callContext_eq, ← Context.property?_eq _ name _ _ addresses,
      ← Context.property?_eq _ name _ _ addresses, ← c.store_default? tables listed name]
    exact c.resolver.lookup_eq _ name
  constructor
  · intro name group property addresses below layer above properties split has without
    have uncovered : above.reverse.findSome? (·[group]?) = none :=
      List.findSome?_eq_none_iff.mpr fun other member => without other (List.mem_reverse.mp member)
    rw [reads name group property addresses, split, List.reverse_append, List.reverse_cons,
      List.append_assoc, List.findSome?_append, uncovered, List.singleton_append,
      List.findSome?_cons, has]
    rfl
  · intro name group property addresses without
    have nowhere : (c.options.globalContext :: (bound ++ [context])).reverse.findSome? (·[group]?) =
        none :=
      List.findSome?_eq_none_iff.mpr fun other member => without other (List.mem_reverse.mp member)
    rw [reads name group property addresses, nowhere]
    rfl

/-- What every client reads at every time, for every property, whatever is bound to it: what its
layers and behind them the service's default context say. A resolution has nothing else of the
contexts, and it makes no difference whether contexts are bound one by one or several in one. -/
theorem reads_layers (options : Options) (files : Files) (feed : Option Feed) (c : Client)
    (built : build options files feed = .ok c) (acts : List Act) (bound : List Context)
    (context : Context) :
    ReadsLayers (options.globalContext :: (bound ++ [context])) (c.run acts).serviceContext
      ((c.run acts).reading bound context) ∧
    (∀ key, ((c.run acts).resolveNow bound key context).1 =
      ((c.run acts).resolver.readingOnly ((c.run acts).reading bound context)).resolve ∅ key) ∧
    ∀ (parts : List (List Context)) last, parts.flatten ++ last = bound ++ [context] → ∀ key,
      (c.run acts).resolve (parts.map .layered) key (.layered last) =
        (c.run acts).resolve bound key context := by
  obtain ⟨loaded, own, service, -⟩ := build_ok options files feed c built
  obtain ⟨tables, uses⟩ := allLayers_ok c.layers loaded
  have moved := c.run_moved acts
  refine ⟨?_, fun key => ?_, fun parts last same key => ?_⟩
  · have listed : (c.run acts).live.isSome = true → .service ∈ (c.run acts).layers := by
      rw [moved.live, moved.layers, Option.isSome_map, service]
      intro present
      split at present
      next serves => exact uses serves
      next => contradiction
    rw [← moved.layers] at tables
    have reads := (c.run acts).reading_layers tables listed bound context
    rwa [moved.options, own] at reads
  · exact ((c.run acts).resolver.resolveAt_readingOnly _ _ key).symm
  · have merged (d : Client) :
        d.callContext (parts.map .layered) (.layered last) = d.callContext bound context := by
      rw [callContext, callContext, Context.layered_flatten, ← Context.layered_append, same,
        Context.layered_append, Context.layered_singleton]
    simp only [resolve, resolveNow, merged]

/-- A context with a group of texts. -/
def about (group : String) (texts : List (String × String)) : Context :=
  (∅ : Context).setGroup group
    (.ofPairs (texts.map fun (name, text) => (name, { payload := .text text })))

/-- Options with a service and a context with two properties of the user. -/
def acquainted : Options where
  key := some "k"
  supplies := some [.service]
  globalContext := about "user" [("plan", "pro"), ("mail", "a")]

/-- The end of a fetch that brings a default context. -/
def delivers (defaults : Context) : Act :=
  .fetched (.ok { defaultContext := some defaults })

/-- The group of the user is replaced by one without a plan, so the plan is the service's, and it
makes no difference whether the contexts are bound one by one or given with the call. -/
theorem replaced_group_falls_through :
    ∃ c d, build acquainted ∅ none = .ok c ∧
      d = c.run [delivers (about "user" [("plan", "free")])] ∧
      d.reading [about "user" [("mail", "b")], about "team" []] ∅ "user.plan" =
        some { payload := .text "free" } ∧
      ∀ key, d.resolve [about "user" [("mail", "b")], about "team" []] key ∅ =
        d.resolve [] key (.layered [about "user" [("mail", "b")], about "team" [], ∅]) := by
  refine ⟨_, _, rfl, rfl, ?_, fun key => ?_⟩
  · obtain ⟨reads, -, -⟩ := reads_layers acquainted ∅ none _ rfl
      [delivers (about "user" [("plan", "free")])]
      [about "user" [("mail", "b")], about "team" []] ∅
    have plan : Addresses "user.plan" "user" "plan" := ⟨by decide, .inl rfl⟩
    exact reads.topmost "user.plan" "user" "plan" plan [acquainted.globalContext]
      (about "user" [("mail", "b")]) [about "team" [], ∅] _ rfl rfl (by decide)
  · obtain ⟨-, -, same⟩ := reads_layers acquainted ∅ none _ rfl
      [delivers (about "user" [("plan", "free")])]
      [about "user" [("mail", "b")], about "team" []] ∅
    exact (same [] _ rfl key).symm

end Client

end LiveConfig
