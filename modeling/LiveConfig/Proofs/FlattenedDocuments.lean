import LiveConfig.Proofs.DocumentPaths
import LiveConfig.Proofs.ResolutionCourse
import LiveConfig.Proofs.StoreKeys

/-!
# Flattened documents

The store of a document without flags serves the paths of the document and nothing else: under each
name the value that is written at the last leaf of that name, to every context. What a leaf stands
for is `StandsFor`: a log level under the path of all levels, and elsewhere the scalar, or the list
of scalars, that is written. The document loads exactly if every key has a text and every leaf
stands for something, where chains that are ignored do not count.

How a text is read into a mapping is not treated here.
-/

namespace LiveConfig

namespace Document

open Yaml (Node)

/-- The names that belong to log levels. -/
def UnderLevels (name : String) : Prop :=
  name = levelRoot ∨ ∃ rest, name = levelRoot ++ "." ++ rest

/-- What a leaf stands for under a name. -/
inductive StandsFor (name : String) : Node → Payload → Prop
  | level (word : String) (level : LogLevel) (under : UnderLevels name)
      (named : LogLevel.parse? word = some level) :
      StandsFor name (.text word) (.logLevel level)
  | bool (b : Bool) (elsewhere : ¬ UnderLevels name) : StandsFor name (.bool b) (.bool b)
  | text (s : String) (elsewhere : ¬ UnderLevels name) : StandsFor name (.text s) (.text s)
  | int (n : Yaml.Number) (i : Int64) (elsewhere : ¬ UnderLevels name)
      (fits : n.toInt64? = some i) : StandsFor name (.number n) (.int i)
  | double (n : Yaml.Number) (elsewhere : ¬ UnderLevels name) (wide : n.toInt64? = none) :
      StandsFor name (.number n) (.double (.ofFloat n.toFloat))
  | texts (items : List Node) (list : List String) (elsewhere : ¬ UnderLevels name)
      (scalars : List.Forall₂ (fun item s => scalarText? item = some s) items list) :
      StandsFor name (.sequence items) (.texts list)

/-- The kind of the config of a leaf. -/
def leafKind (name : String) : Kind :=
  if isLevelPath name then .logLevel else .config

/-- The last site of a name. -/
def lastNamed? (name : String) (sites : List Site) : Option Site :=
  (sites.filter (·.name == name)).getLast?

/-- Nothing within the entries of a document is a flag. -/
def Flagless (entries : Entries) : Prop :=
  ∀ chain inner, Leads entries chain (.mapping inner) → carriesFlag inner = false

/-- A path is seen to be one of log levels by how it begins. -/
theorem isLevelPath_iff (name : String) : isLevelPath name = true ↔ UnderLevels name := by
  unfold isLevelPath UnderLevels
  rw [Bool.or_eq_true, beq_iff_eq, List.isPrefixOf_iff_prefix]
  refine or_congr_right ?_
  constructor
  · rintro ⟨rest, same⟩
    refine ⟨String.ofList rest, ?_⟩
    rw [← String.toList_inj, String.toList_append, String.toList_ofList, same]
  · rintro ⟨rest, rfl⟩
    exact ⟨rest.toList, (String.toList_append ..).symm⟩

/-- An item is read as its text. -/
theorem itemText_ok_iff (name : String) (item : Node) (s : String) :
    itemText name item = .ok s ↔ scalarText? item = some s := by
  unfold itemText
  cases scalarText? item <;> simp

/-- A text is read as the level that it names. -/
theorem readLogLevel_ok_iff (word : String) (level : LogLevel) :
    readLogLevel word = .ok level ↔ LogLevel.parse? word = some level := by
  unfold readLogLevel
  cases LogLevel.parse? word <;> simp

/-- Elsewhere than under the levels, the value of a leaf is what it stands for. -/
theorem leafValue_ok_iff (name : String) (elsewhere : ¬ UnderLevels name) (node : Node)
    (v : Value) :
    leafValue name node = .ok v ↔ ∃ payload, StandsFor name node payload ∧ v = { payload } := by
  constructor
  · intro read
    unfold leafValue at read
    split at read
    · obtain rfl := Except.ok.inj read
      exact ⟨_, .bool _ elsewhere, rfl⟩
    · next n =>
      obtain rfl := Except.ok.inj read
      refine ⟨_, ?_, rfl⟩
      unfold numberPayload
      split
      · exact .int n _ elsewhere ‹_›
      · exact .double n elsewhere ‹_›
    · obtain rfl := Except.ok.inj read
      exact ⟨_, .text _ elsewhere, rfl⟩
    · obtain ⟨list, scalars, ⟨rfl⟩⟩ := (Outcome.bind_ok_iff ..).mp read
      rw [Outcome.mapM_ok_iff] at scalars
      exact ⟨_, .texts _ list elsewhere
        (scalars.imp fun item s => (itemText_ok_iff name item s).mp), rfl⟩
    · contradiction
  · rintro ⟨_, standsFor, rfl⟩
    cases standsFor with
    | level _ _ under _ => exact absurd under elsewhere
    | bool | text => rfl
    | int _ _ _ fits => simp [leafValue, numberPayload, fits]
    | double _ _ wide => simp [leafValue, numberPayload, wide]
    | texts items list _ scalars =>
      have read := (Outcome.mapM_ok_iff (itemText name) items list).mpr
        (scalars.imp fun item s => (itemText_ok_iff name item s).mpr)
      simp [leafValue, read, bind, Except.bind, pure, Except.pure]

/-- A level is read where a text names one. -/
theorem levelConfig_ok_iff (name : String) (under : UnderLevels name) (node : Node) (c : Config) :
    levelConfig name node = .ok c ↔ ∃ payload, StandsFor name node payload ∧
      c = .single 0 name .logLevel { value := { payload } } := by
  constructor
  · intro read
    unfold levelConfig at read
    split at read
    · obtain ⟨level, named, ⟨rfl⟩⟩ := (Outcome.bind_ok_iff ..).mp read
      exact ⟨_, .level _ level under ((readLogLevel_ok_iff ..).mp named), rfl⟩
    · contradiction
  · rintro ⟨_, standsFor, rfl⟩
    cases standsFor with
    | level word level _ named =>
      simp [levelConfig, (readLogLevel_ok_iff ..).mpr named, bind, Except.bind, pure, Except.pure]
    | bool _ elsewhere | text _ elsewhere | int _ _ elsewhere | double _ elsewhere
    | texts _ _ elsewhere => exact absurd under elsewhere

/-- The config of a leaf serves what the leaf stands for, unconditionally. -/
theorem leafConfig_ok_iff (name : String) (node : Node) (c : Config) :
    leafConfig name node = .ok c ↔ ∃ payload, StandsFor name node payload ∧
      c = .single 0 name (leafKind name) { value := { payload } } := by
  unfold leafConfig leafKind
  by_cases under : isLevelPath name = true
  · rw [if_pos under, if_pos under]
    exact levelConfig_ok_iff name ((isLevelPath_iff name).mp under) node c
  · have elsewhere : ¬ UnderLevels name := fun below => under ((isLevelPath_iff name).mpr below)
    rw [if_neg under, if_neg under]
    simp only [Outcome.bind_ok_iff, leafValue_ok_iff name elsewhere]
    constructor
    · rintro ⟨_, ⟨payload, standsFor, rfl⟩, ⟨rfl⟩⟩
      exact ⟨payload, standsFor, rfl⟩
    · rintro ⟨payload, standsFor, rfl⟩
      exact ⟨_, ⟨payload, standsFor, rfl⟩, rfl⟩

/-- The config of a flag has one rule and is of the kind of flags. -/
theorem flagConfig_single (name : String) (entries : Entries) (c : Config)
    (given : flagConfig name entries = .ok c) :
    ∃ rule, c = .single 0 name .featureFlag rule := by
  unfold flagConfig at given
  split at given
  · contradiction
  · simp only [Outcome.bind_ok_iff] at given
    obtain ⟨value, -, criteria, -, ⟨rfl⟩⟩ := given
    exact ⟨_, rfl⟩

/-- The config of a site has the name under which it is given. -/
theorem siteConfig_key (name : String) (node : Node) (c : Config)
    (given : siteConfig name node = .ok c) : c.key = name := by
  unfold siteConfig at given
  split at given
  · obtain ⟨rule, rfl⟩ := flagConfig_single name _ c given
    rfl
  · obtain ⟨payload, -, rfl⟩ := (leafConfig_ok_iff ..).mp given
    rfl

/-- Where two lists correspond, so do their last elements. -/
theorem rel_getLast? {α β : Type} {R : α → β → Prop} {xs : List α} {ys : List β}
    (related : List.Forall₂ R xs ys) : Option.Rel R xs.getLast? ys.getLast? := by
  rw [List.getLast?_eq_head?_reverse, List.getLast?_eq_head?_reverse]
  have backwards := List.rel_reverse related
  generalize xs.reverse = sx at backwards ⊢
  generalize ys.reverse = sy at backwards ⊢
  cases backwards with
  | nil => exact .none
  | cons last _ => exact .some last

/-- A last site of a name has this name. -/
theorem lastNamed?_name {name : String} {sites : List Site} {s : Site}
    (last : lastNamed? name sites = some s) : s ∈ sites ∧ s.name = name := by
  obtain ⟨member, named⟩ := List.mem_filter.mp (List.mem_of_getLast? last)
  exact ⟨member, by simpa using named⟩

/-- There is a last site of a name if there is a site of that name. -/
theorem lastNamed?_isSome_iff (name : String) (sites : List Site) :
    (lastNamed? name sites).isSome ↔ ∃ s ∈ sites, s.name = name := by
  rw [Option.isSome_iff_ne_none, lastNamed?, ne_eq, List.getLast?_eq_none_iff,
    List.filter_eq_nil_iff]
  simp

/-- The last config of a name is given by the last site of that name. -/
theorem lastOf?_eq_some_iff (sites : List Site) (configs : List Config)
    (given : List.Forall₂ (fun s c => siteConfig s.name s.node = .ok c) sites configs)
    (name : String) (c : Config) : lastOf? name configs = some c ↔
      ∃ s, lastNamed? name sites = some s ∧ siteConfig name s.node = .ok c := by
  have last : Option.Rel (fun s c => siteConfig s.name s.node = .ok c)
      (lastNamed? name sites) (lastOf? name configs) := by
    refine rel_getLast? (List.rel_filter ?_ given)
    intro s c gives
    simp [siteConfig_key _ _ _ gives]
  generalize lastOf? name configs = config at last ⊢
  cases found : lastNamed? name sites with
  | none =>
    rw [found] at last
    cases last
    simp
  | some s =>
    rw [found] at last
    cases last with
    | some gives =>
      rw [(lastNamed?_name found).2] at gives
      simp [gives]

/-- A list corresponds to one of the same order if each of its elements corresponds to something. -/
theorem exists_forall₂_iff {α β : Type} {R : α → β → Prop} (xs : List α) :
    (∃ ys, List.Forall₂ R xs ys) ↔ ∀ x ∈ xs, ∃ y, R x y := by
  induction xs with
  | nil => simp
  | cons x rest inductionHypothesis =>
    rw [List.forall_mem_cons, ← inductionHypothesis]
    simp only [List.forall₂_cons_left_iff]
    constructor
    · rintro ⟨_, y, ys, first, others, rfl⟩
      exact ⟨⟨y, first⟩, ys, others⟩
    · rintro ⟨⟨y, first⟩, ys, others⟩
      exact ⟨_, y, ys, first, others, rfl⟩

/-- What a leaf stands for is served as it is. -/
theorem StandsFor.plain {name : String} {node : Node} {payload : Payload}
    (standsFor : StandsFor name node payload) : Resolver.Plain { payload } := by
  cases standsFor <;> exact ⟨by simp, by simp, rfl⟩

/-- A site of a document without flags is a leaf. -/
theorem Flagless.leaf {entries : Entries} (flagless : Flagless entries) {s : Site}
    (site : s ∈ sites entries) : ∀ inner, s.node ≠ .mapping inner := by
  intro inner mapping
  obtain ⟨standing, leads, -⟩ := (mem_sites_iff s entries).mp site
  have plain := flagless s.chain inner (mapping ▸ leads)
  simp [standing.2 inner mapping] at plain

/-- What is no mapping gives a config exactly as a leaf. -/
theorem siteConfig_leaf (name : String) (node : Node) (leaf : ∀ inner, node ≠ .mapping inner) :
    siteConfig name node = leafConfig name node := by
  unfold siteConfig
  split
  · exact absurd rfl (leaf _)
  · rfl

end Document

namespace Store

open Document

/-- A name that a store has a leaf's config for is resolved to what the leaf stands for, in any
context and with whatever else the resolver has. -/
theorem resolve_leaf (store : Store) (name : String) (node : Yaml.Node) (payload : Payload)
    (standsFor : StandsFor name node payload)
    (held : store.config? name = some (.single 0 name (leafKind name) { value := { payload } }))
    (r : Resolver) (context : Context) (same : r.catalog.config? = store.catalog.config?) :
    r.resolve context name = .ok
      { key := name, config := .single 0 name (leafKind name) { value := { payload } },
        selection := some { row := 0, index := 0, rule := { value := { payload } } },
        value := some { payload } } := by
  have here : r.catalog.config? name =
      some (.single 0 name (leafKind name) { value := { payload } }) := by
    rw [same]
    exact held
  exact r.resolveAt_unconditional context name r.depth 0 name _ _ standsFor.plain here

section

variable (text : String) (entries : Entries)
  (parsed : Yaml.parse? text = some (.mapping entries))

include parsed

/-- A document that is a mapping is loaded into a table of the configs of its entries. -/
theorem ofDocument_eq : ofDocument text = (entryConfigs "" entries).map ofConfigs := by
  rw [ofDocument, Document.parse, parsed]
  rfl

/-- A document that is a mapping loads exactly if its entries have configs. -/
theorem ofDocument_ok_iff (store : Store) : ofDocument text = .ok store ↔
    ∃ configs, entryConfigs "" entries = .ok configs ∧ ofConfigs configs = store := by
  rw [ofDocument_eq text entries parsed, Outcome.map_ok_iff]

/-- A document that is a mapping loads exactly if the keys that count can be read and each site
gives a config. -/
theorem ofDocument_loads_iff : (∃ store, ofDocument text = .ok store) ↔
    RootReadable entries ∧ ∀ s ∈ sites entries, ∃ c, siteConfig s.name s.node = .ok c := by
  simp only [ofDocument_ok_iff text entries parsed, configs_iff]
  rw [← exists_forall₂_iff]
  constructor
  · rintro ⟨_, configs, ⟨readable, given⟩, -⟩
    exact ⟨readable, configs, given⟩
  · rintro ⟨readable, configs, given⟩
    exact ⟨_, configs, ⟨readable, given⟩, rfl⟩

/-- Under each name, the store of a document has the config of the last site of that name. -/
theorem ofDocument_config? (store : Store) (loaded : ofDocument text = .ok store) (name : String)
    (c : Config) : store.config? name = some c ↔
      ∃ s, lastNamed? name (sites entries) = some s ∧ siteConfig name s.node = .ok c := by
  obtain ⟨configs, walked, rfl⟩ := (ofDocument_ok_iff text entries parsed store).mp loaded
  rw [ofConfigs_config?]
  exact lastOf?_eq_some_iff _ _ ((configs_iff entries configs).mp walked).2 name c

/-- The store of a document has a config under the names of its sites. -/
theorem ofDocument_keys (store : Store) (loaded : ofDocument text = .ok store) (name : String) :
    name ∈ store.keys ↔ ∃ s ∈ sites entries, s.name = name := by
  rw [mem_keys_iff, Option.isSome_iff_exists]
  simp only [ofDocument_config? text entries parsed store loaded]
  rw [← lastNamed?_isSome_iff, Option.isSome_iff_exists]
  constructor
  · rintro ⟨c, s, last, -⟩
    exact ⟨s, last⟩
  · rintro ⟨s, last⟩
    obtain ⟨site, rfl⟩ := lastNamed?_name last
    obtain ⟨-, given⟩ := (ofDocument_loads_iff text entries parsed).mp ⟨store, loaded⟩
    obtain ⟨c, gives⟩ := given s site
    exact ⟨c, s, last, gives⟩

/-- The store of a document without flags serves the leaves of the document. The document loads
exactly if the keys that count can be read and each leaf stands for something under its name. The
store then has a config under the names of the leaves and no others. Resolving such a name, in any
context and with whatever else the resolver has, selects the first rule of the first row and serves
what the last leaf of that name stands for. -/
theorem document_serves_leaves (flagless : Flagless entries) :
    (∀ s, s ∈ sites entries ↔ Leads entries s.chain s.node ∧ s.node ≠ .null ∧
      (∀ inner, s.node ≠ .mapping inner) ∧ ignored s.chain = false) ∧
    ((∃ store, ofDocument text = .ok store) ↔ RootReadable entries ∧
      ∀ s ∈ sites entries, ∃ payload, StandsFor s.name s.node payload) ∧
    ∀ store, ofDocument text = .ok store →
      (∀ name, name ∈ store.keys ↔ ∃ s ∈ sites entries, s.name = name) ∧
      ∀ name ∈ store.keys, ∃ s c payload, lastNamed? name (sites entries) = some s ∧
        StandsFor name s.node payload ∧ store.config? name = some c ∧
          ∀ (r : Resolver) (context : Context), r.catalog.config? = store.catalog.config? →
            r.resolve context name = .ok
              { key := name, config := c,
                selection := some { row := 0, index := 0, rule := { value := { payload } } },
                value := some { payload } } := by
  have leafSite (s : Site) (site : s ∈ sites entries) (name : String) (c : Config) :
      siteConfig name s.node = .ok c ↔ ∃ payload, StandsFor name s.node payload ∧
        c = .single 0 name (leafKind name) { value := { payload } } := by
    rw [siteConfig_leaf name s.node (flagless.leaf site), leafConfig_ok_iff]
  refine ⟨?_, ?_, ?_⟩
  · intro s
    constructor
    · intro site
      obtain ⟨standing, leads, visible⟩ := (mem_sites_iff s entries).mp site
      exact ⟨leads, standing.1, flagless.leaf site, visible⟩
    · rintro ⟨leads, present, leaf, visible⟩
      have standing : Standing s.node :=
        ⟨present, fun inner mapping => absurd mapping (leaf inner)⟩
      exact (mem_sites_iff s entries).mpr ⟨standing, leads, visible⟩
  · rw [ofDocument_loads_iff text entries parsed]
    refine and_congr_right fun _ => forall₂_congr fun s site => ?_
    simp only [leafSite s site]
    constructor
    · rintro ⟨_, payload, standsFor, rfl⟩
      exact ⟨payload, standsFor⟩
    · rintro ⟨payload, standsFor⟩
      exact ⟨_, payload, standsFor, rfl⟩
  · intro store loaded
    refine ⟨ofDocument_keys text entries parsed store loaded, fun name listed => ?_⟩
    obtain ⟨c, held⟩ := Option.isSome_iff_exists.mp ((mem_keys_iff name store).mp listed)
    obtain ⟨s, last, gives⟩ := (ofDocument_config? text entries parsed store loaded name c).mp held
    obtain ⟨payload, standsFor, rfl⟩ := (leafSite s (lastNamed?_name last).1 name c).mp gives
    have resolves := resolve_leaf store name s.node payload standsFor held
    exact ⟨s, _, payload, last, standsFor, held, resolves⟩

end

/-- A document in which two chains have the name `db.pool`. What stands below `_` at the root could
not be read. -/
def pools : String :=
  "_: [[]]\ndb:\n  _: primary\n  pool: 10\n  8080: [a, 1, true]\n  spare:\ndb.pool: wide\n" ++
  "log-level:\n  _: warn\n  app: Debug\n"

/-- The entries of the document. -/
def poolEntries : Entries :=
  [(.text "_", .sequence [.sequence []]),
   (.text "db", .mapping [(.text "_", .text "primary"), (.text "pool", .number (.natural 10)),
     (.number (.natural 8080), .sequence [.text "a", .number (.natural 1), .bool true]),
     (.text "spare", .null)]),
   (.text "db.pool", .text "wide"),
   (.text "log-level", .mapping [(.text "_", .text "warn"), (.text "app", .text "Debug")])]

/-- The later one of the two leaves is served, and below `log-level` a level. -/
theorem pools_serve_later_leaf : Yaml.parse? pools = some (.mapping poolEntries) ∧
    Flagless poolEntries ∧ ∃ store, ofDocument pools = .ok store ∧
      (∀ name, name ∈ store.keys ↔
        name ∈ ["db", "db.pool", "db.8080", "log-level", "log-level.app"]) ∧
      ∀ (r : Resolver) (context : Context), r.catalog.config? = store.catalog.config? →
        (r.resolve context "db.pool").map (·.value) = .ok (some { payload := .text "wide" }) ∧
        (r.resolve context "log-level.app").map (·.value) =
          .ok (some { payload := .logLevel .debug }) := by
  have parsed : Yaml.parse? pools = some (.mapping poolEntries) := by decide +kernel
  have flagless : Flagless poolEntries := by
    simp [Flagless, poolEntries, leads_cons_iff, not_leads_nil, carriesFlag, Yaml.Node.entry?,
      or_imp, forall_and]
  have loads : (entryConfigs "" poolEntries).toOption.isSome = true := by decide +kernel
  have names : ((sites poolEntries).map Site.name).eraseDups =
      ["db", "db.pool", "db.8080", "log-level", "log-level.app"] := by decide +kernel
  have pool : lastNamed? "db.pool" (sites poolEntries) =
      some { chain := [.text "db.pool"], node := .text "wide" } := by decide +kernel
  have app : lastNamed? "log-level.app" (sites poolEntries) =
      some { chain := [.text "log-level", .text "app"], node := .text "Debug" } := by
    decide +kernel
  have under : UnderLevels "log-level.app" := .inr ⟨"app", by decide +kernel⟩
  have elsewhere : ¬ UnderLevels "db.pool" := by
    rw [← isLevelPath_iff]
    decide +kernel
  have named : LogLevel.parse? "Debug" = some .debug := by decide +kernel
  obtain ⟨-, -, served⟩ := document_serves_leaves pools poolEntries parsed flagless
  cases walked : entryConfigs "" poolEntries with
  | error failure => simp [walked, Except.toOption] at loads
  | ok configs =>
    have loaded : ofDocument pools = .ok (ofConfigs configs) := by
      rw [ofDocument_eq pools poolEntries parsed, walked]
      rfl
    obtain ⟨keys, resolutions⟩ := served (ofConfigs configs) loaded
    have listed (name : String) : name ∈ (ofConfigs configs).keys ↔
        name ∈ ["db", "db.pool", "db.8080", "log-level", "log-level.app"] := by
      rw [keys, ← names, List.mem_eraseDups, List.mem_map]
    refine ⟨parsed, flagless, ofConfigs configs, loaded, listed, fun r context same => ⟨?_, ?_⟩⟩
    · obtain ⟨s, c, payload, last, standsFor, -, resolves⟩ :=
        resolutions "db.pool" (by simp [listed])
      obtain rfl := Option.some.inj (last.symm.trans pool)
      cases standsFor with
      | level _ _ under => exact absurd under elsewhere
      | text => rw [resolves r context same]; rfl
    · obtain ⟨s, c, payload, last, standsFor, -, resolves⟩ :=
        resolutions "log-level.app" (by simp [listed])
      obtain rfl := Option.some.inj (last.symm.trans app)
      cases standsFor with
      | level word level _ word_named =>
        obtain rfl := Option.some.inj (word_named.symm.trans named)
        rw [resolves r context same]
        rfl
      | text _ elsewhere => exact absurd under elsewhere

end Store

end LiveConfig
