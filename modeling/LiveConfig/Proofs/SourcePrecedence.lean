import LiveConfig.Proofs.ClientRuns
import LiveConfig.Proofs.LayeredStores
import LiveConfig.Proofs.LiveConvergence
import LiveConfig.Proofs.StoreKeys

/-!
# Where a config comes from

The options of a client put the places that configs come from into one order: the documents of the
override directory, then the supplies, of which the config directory stands for its documents.
`Place.held?` says what each of them holds for a key, from the files and the snapshots themselves
and without any store. `served_by_first_place` says that a client serves what the first of them
holds, after every run.

Only the service changes. Whatever has arrived decides anew at each lookup which place serves a
key: a deletion makes room for the places behind the service, and a newer record takes it again.
-/

namespace LiveConfig

/-- A place that configs come from. -/
inductive Place where
  | document (path : String)
  | service
  | dump (path : String) (environment : Int64)
  | values (values : Std.ExtTreeMap String Value)

namespace Place

/-- The configs of a document. What is missing, or is a directory, has none. -/
def documentConfigs (files : Files) (path : String) : List Config :=
  match files[path]? with
  | some (.file content) =>
    ((Bytes.toText? content).bind fun text => (Document.parse text).toOption).getD []
  | _ => []

/-- The configs of a dump. -/
def dumpConfigs (files : Files) (path : String) : List Config :=
  match files[path]? with
  | some (.file content) => (Dump.decode? content).getD []
  | _ => []

/-- The config of a key that a place holds, given the files and the snapshots that have arrived. The
service holds the newest record of the key unless it marks a deletion. -/
def held? (files : Files) (arrived : List Snapshot) (key : String) : Place → Option Config
  | .document path => lastOf? key (documentConfigs files path)
  | .service => served? key (delivered arrived)
  | .dump path _ => lastOf? key (dumpConfigs files path)
  | .values table => table[key]?.map (.constant 0 key)

end Place

namespace Options

/-- The documents of a directory: one for each environment, then the default one. -/
def documents (o : Options) (directory : String) : List Place :=
  (o.environmentNames ++ ["default"]).map fun name =>
    .document (pathIn directory (environmentFile name))

/-- The places that a supply stands for. -/
def placesOf (o : Options) : Supply → List Place
  | .service => [.service]
  | .localFiles => o.documents o.directory
  | .dump path environment => [.dump path environment]
  | .values values => [.values values]

/-- All places that configs come from, in the order of their precedence. -/
def places (o : Options) : List Place :=
  (o.effectiveOverride.map o.documents).getD [] ++ o.effectiveSupplies.flatMap o.placesOf

end Options

namespace Store

/-- A table made of values holds, for a key, the value that stands under it. -/
theorem ofValues_config? (values : Std.ExtTreeMap String Value) (key : String) :
    (ofValues values.toList).config? key = values[key]?.map (.constant 0 key) := by
  have listed : (ofValues values.toList).config? key =
      lastOf? key (values.toList.map fun entry => .constant 0 entry.1 entry.2) :=
    ofConfigs_config? _ none key
  rw [listed, lastOf?]
  cases last : (List.filter (·.key == key)
      (values.toList.map fun entry => Config.constant 0 entry.1 entry.2)).getLast? with
  | some config =>
    obtain ⟨member, same⟩ := List.mem_filter.mp (List.mem_of_getLast? last)
    obtain ⟨⟨name, v⟩, entry, rfl⟩ := List.mem_map.mp member
    obtain rfl : name = key := eq_of_beq same
    rw [Std.ExtTreeMap.mem_toList_iff_getElem?_eq_some.mp entry, Option.map_some]
  | none =>
    rw [List.getLast?_eq_none_iff, List.filter_eq_nil_iff] at last
    cases stored : values[key]? with
    | none => rfl
    | some v =>
      have entry := Std.ExtTreeMap.mem_toList_iff_getElem?_eq_some.mpr stored
      exact absurd (beq_self_eq_true key) (last _ (List.mem_map_of_mem entry))

end Store

namespace Client

/-- What a client's store has for a key is what the first of its layers has. -/
theorem store_config? (c : Client) (key : String) :
    c.store.config? key =
      c.layers.findSome? fun layer => (layerStore (c.live.getD {}) layer).config? key := by
  show Store.firstConfig? key (c.layers.map (layerStore (c.live.getD {}))) = _
  rw [Store.firstConfig?_eq, List.findSome?_map]
  rfl

section Layers

variable {options : Options} {files : Files} {arrived : List Snapshot} {live : Live} {key : String}

/-- The store of a document, if there is one, holds what the document holds. -/
theorem document_held (arrived : List Snapshot) (key path : String) (store : Option Store)
    (loaded : documentAt files path = .ok store) :
    (store.bind fun s => s.config? key) = (Place.document path).held? files arrived key := by
  rw [documentAt] at loaded
  rw [Place.held?]
  rcases stored : files[path]? with _ | ⟨content⟩ | _
  · have empty : Place.documentConfigs files path = [] := by simp [Place.documentConfigs, stored]
    simp only [stored, Except.ok.injEq] at loaded
    rw [← loaded, empty]
    rfl
  · cases decoded : Bytes.toText? content with
    | none => simp [stored, decoded] at loaded
    | some text =>
      simp only [stored, decoded, Store.ofDocument, Outcome.map_ok_iff] at loaded
      obtain ⟨_, ⟨configs, parsed, rfl⟩, rfl⟩ := loaded
      have read : Place.documentConfigs files path = configs := by
        simp [Place.documentConfigs, stored, decoded, parsed, Except.toOption]
      rw [read]
      exact Store.ofConfigs_config? configs none key
  · have empty : Place.documentConfigs files path = [] := by simp [Place.documentConfigs, stored]
    simp only [stored, Except.ok.injEq] at loaded
    rw [← loaded, empty]
    rfl

/-- The store of a dump holds what the dump holds. -/
theorem dump_held (path : String) (environment : Int64) (store : Store)
    (loaded : dumpAt files path environment = .ok store) :
    store.config? key = (Place.dump path environment).held? files arrived key := by
  rw [dumpAt] at loaded
  rw [Place.held?]
  rcases stored : files[path]? with _ | ⟨content⟩ | _
  · simp [stored] at loaded
  · cases decoded : Dump.decode? content with
    | none => simp [stored, Store.ofDump, decoded] at loaded
    | some configs =>
      simp only [stored, Store.ofDump, decoded, Except.ok.injEq] at loaded
      have read : Place.dumpConfigs files path = configs := by
        simp [Place.dumpConfigs, stored, decoded]
      rw [← loaded, read]
      exact Store.ofConfigs_config? configs (some environment) key
  · simp [stored] at loaded

/-- The layers of a directory hold what its documents hold. -/
theorem directory_held (directory : String) (layers : List Layer)
    (loaded : documentsIn options files directory = .ok layers) :
    (layers.findSome? fun layer => (layerStore live layer).config? key) =
      (options.documents directory).findSome? (·.held? files arrived key) := by
  rw [documentsIn, Outcome.bind_ok_iff] at loaded
  obtain ⟨stores, read, made⟩ := loaded
  obtain rfl := Except.ok.inj made
  have listed : options.documents directory = (options.filesIn directory).map .document := by
    simp [Options.documents, Options.filesIn]
  rw [listed, List.findSome?_map, List.findSome?_map]
  -- The induction is on the paths together with what reading each of them gave.
  have related := Outcome.mapM_ok _ _ _ read
  generalize options.filesIn directory = paths at related
  clear read listed made
  induction related with
  | nil => rfl
  | @cons path store _ _ here _ inductionHypothesis =>
    have first := document_held arrived key path store here
    cases store with
    | none =>
      rw [Option.bind_none] at first
      rw [List.filterMap_cons_none rfl, List.findSome?_cons, inductionHypothesis,
        Function.comp_apply, ← first]
    | some store =>
      rw [Option.bind_some] at first
      rw [List.filterMap_cons_some (f := id) rfl, List.findSome?_cons, List.findSome?_cons,
        inductionHypothesis, Function.comp_apply, Function.comp_apply, ← first]
      rfl

/-- The layers of a supply hold what its places hold. -/
theorem supply_held (served : live.config? key = served? key (delivered arrived)) (supply : Supply)
    (layers : List Layer) (loaded : layersOf options files supply = .ok layers) :
    (layers.findSome? fun layer => (layerStore live layer).config? key) =
      (options.placesOf supply).findSome? (·.held? files arrived key) := by
  cases supply with
  | service =>
    obtain rfl := Except.ok.inj loaded
    simp only [Options.placesOf, List.findSome?_singleton, layerStore, Place.held?]
    exact served
  | localFiles => exact directory_held options.directory layers loaded
  | dump path environment =>
    rw [layersOf, Outcome.map_ok_iff] at loaded
    obtain ⟨store, read, rfl⟩ := loaded
    simp only [Options.placesOf, List.findSome?_singleton, layerStore]
    exact dump_held path environment store read
  | values values =>
    obtain rfl := Except.ok.inj loaded
    simp only [Options.placesOf, List.findSome?_singleton, layerStore, Place.held?]
    exact Store.ofValues_config? values key

/-- The layers of several supplies hold what the places of all of them hold. -/
theorem supplies_held (served : live.config? key = served? key (delivered arrived))
    (supplies : List Supply) (layers : List (List Layer))
    (loaded : supplies.mapM (layersOf options files) = .ok layers) :
    (layers.flatten.findSome? fun layer => (layerStore live layer).config? key) =
      (supplies.flatMap options.placesOf).findSome? (·.held? files arrived key) := by
  have related := Outcome.mapM_ok _ _ _ loaded
  clear loaded
  induction related with
  | nil => rfl
  | @cons supply first _ _ here _ inductionHypothesis =>
    rw [List.flatten_cons, List.flatMap_cons, List.findSome?_append, List.findSome?_append,
      supply_held served supply first here, inductionHypothesis]

/-- The layers of a client hold what the places of its options hold. -/
theorem layers_held (served : live.config? key = served? key (delivered arrived))
    (layers : List Layer) (loaded : allLayers options files = .ok layers) :
    (layers.findSome? fun layer => (layerStore live layer).config? key) =
      options.places.findSome? (·.held? files arrived key) := by
  simp only [allLayers, Outcome.bind_ok_iff] at loaded
  obtain ⟨overrides, before, supplied, after, made⟩ := loaded
  obtain rfl := Except.ok.inj made
  rw [Options.places, List.findSome?_append, List.findSome?_append,
    supplies_held served options.effectiveSupplies supplied after]
  congr 1
  rw [overrideLayers] at before
  cases override : options.effectiveOverride with
  | none =>
    simp only [override, Except.ok.injEq] at before
    rw [← before]
    rfl
  | some directory =>
    simp only [override] at before
    exact directory_held directory overrides before

end Layers

/-- Whatever snapshots there are, a run brings them to a client with a service. -/
theorem arrivals_fetched (c : Client) (service : c.live.isSome = true) (snapshots : List Snapshot) :
    c.arrivals (snapshots.map fun snapshot => .fetched (.ok snapshot)) = snapshots := by
  induction snapshots generalizing c with
  | nil => rfl
  | cons snapshot rest inductionHypothesis =>
    obtain ⟨live, same⟩ := Option.isSome_iff_exists.mp service
    have brought : c.brought? (.fetched (.ok snapshot)) = some snapshot := by
      simp [brought?, same, Except.toOption]
    have next : (c.perform (.fetched (.ok snapshot))).live.isSome = true := by
      rw [(c.perform_moved _).live, same]
      rfl
    rw [List.map_cons, arrivals, brought, inductionHypothesis _ next]
    rfl

/-- After every run, the live store of a client has taken in what the run has brought and nothing
else, if it had taken in nothing before. -/
theorem run_replays (c : Client) (fresh : ∀ live, c.live = some live → live = {})
    (acts : List Act) : (c.run acts).live.getD {} = Live.replay (c.arrivals acts) := by
  have moved := c.run_moved acts
  rw [moved.live]
  cases service : c.live with
  | none =>
    -- Nothing has arrived, so the store that stands in for the missing one is as fresh as a replay.
    rw [moved.sourced service]
    rfl
  | some live =>
    rw [fresh live service]
    rfl

/-- After every run, a client serves for a key what the first of the places holds that its options
put into order, and every history of snapshots is that of a run.

Let no place before the service hold a key. Then the newest record that has arrived for it is
served; if there is none, or if it marks a deletion, the places behind the service decide. -/
theorem served_by_first_place (options : Options) (files : Files) (feed : Option Feed) (c : Client)
    (built : build options files feed = .ok c) :
    (options.usesService = true → ∀ snapshots, ∃ acts, c.arrivals acts = snapshots) ∧
    ∀ acts key,
      (c.run acts).store.config? key =
        options.places.findSome? (·.held? files (c.arrivals acts) key) ∧
      ∀ above below, options.places = above ++ .service :: below →
        (∀ place ∈ above, place.held? files (c.arrivals acts) key = none) →
        (newest? key (delivered (c.arrivals acts)) = none →
          (c.run acts).store.config? key =
            below.findSome? (·.held? files (c.arrivals acts) key)) ∧
        ∀ record, newest? key (delivered (c.arrivals acts)) = some record →
          (c.run acts).store.config? key =
            if record.isTombstone then below.findSome? (·.held? files (c.arrivals acts) key)
            else some record := by
  obtain ⟨loaded, -, service, -⟩ := build_ok options files feed c built
  constructor
  · intro uses snapshots
    exact ⟨_, c.arrivals_fetched (by rw [service, if_pos uses]; rfl) snapshots⟩
  intro acts key
  have fresh : ∀ live, c.live = some live → live = {} := by
    intro live present
    rw [service] at present
    split at present
    · exact (Option.some.inj present).symm
    · contradiction
  have serves : (Live.replay (c.arrivals acts)).config? key =
      served? key (delivered (c.arrivals acts)) :=
    Live.reflects_served _ _ (Live.replay_reflects (c.arrivals acts)) key
  have first : (c.run acts).store.config? key =
      options.places.findSome? (·.held? files (c.arrivals acts) key) := by
    rw [store_config?, c.run_replays fresh acts, (c.run_moved acts).layers]
    exact layers_held serves c.layers loaded
  refine ⟨first, ?_⟩
  intro above below order nowhere
  have vacant : above.findSome? (·.held? files (c.arrivals acts) key) = none :=
    List.findSome?_eq_none_iff.mpr nowhere
  rw [first, order, List.findSome?_append, vacant, Option.none_or, List.findSome?_cons, Place.held?,
    served?]
  constructor
  · intro nothing
    rw [nothing]
    rfl
  · intro record counts
    rw [counts]
    cases tombstone : record.isTombstone <;> simp [Option.filter, tombstone]

/-- Options with the service twice and with values behind it; there is no document. -/
def doubled : Options where
  key := some "k"
  supplies := some [.service, .localFiles,
    .values ((∅ : Std.ExtTreeMap String Value).insert "a" { payload := .bool true }), .service]

/-- A fetch of one record of the key `a`. -/
def brings (id : Int64) (rows : List Row) : Act :=
  .fetched (.ok { configs := [{ id, key := "a", rows }] })

/-- A deletion makes room for the values behind the service, and a newer record takes it again. -/
theorem deletion_uncovers :
    ∃ c, build doubled ∅ none = .ok c ∧
      (c.run [brings 1 [{}], brings 2 []]).store.config? "a" =
        some (.constant 0 "a" { payload := .bool true }) ∧
      (c.run [brings 1 [{}], brings 2 [], brings 3 [{}]]).store.config? "a" =
        some { id := 3, key := "a", rows := [{}] } := by
  refine ⟨_, rfl, ?_, ?_⟩
  · have served := ((served_by_first_place doubled ∅ none _ rfl).2
      [brings 1 [{}], brings 2 []] "a").2 [] _ rfl (by simp)
    have deleted := served.2 { id := 2, key := "a" } rfl
    rw [deleted]
    rfl
  · have served := ((served_by_first_place doubled ∅ none _ rfl).2
      [brings 1 [{}], brings 2 [], brings 3 [{}]] "a").2 [] _ rfl (by simp)
    exact served.2 { id := 3, key := "a", rows := [{}] } rfl

end Client

end LiveConfig
