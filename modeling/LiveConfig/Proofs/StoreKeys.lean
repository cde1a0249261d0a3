import LiveConfig.Proofs.LayeredStores
import LiveConfig.Proofs.LiveConvergence
import LiveConfig.Proofs.KeyedTables
import LiveConfig.Proofs.SecretChain

/-!
# Keys of stores

A store lists its keys in ascending order without repetition, and it lists just those that it has a
config for: deleted keys of a live store are not listed, and a key that several layers have is
listed once. A store that came about in one of the ways in which stores do has each config under the
config's own key.

So a key is known to be missing before anything is evaluated, and it is the only one that is ever
reported as missing. A segment that is missing serves nothing, and a missing key of a secret makes
the secret undecryptable.
-/

namespace LiveConfig

/-- The last config of a key in a list. -/
def lastOf? (key : String) (configs : List Config) : Option Config :=
  (configs.filter (·.key == key)).getLast?

namespace Store

/-- Stores that come about: tables of configs, of values, of a document and of a dump, a live store
after any snapshots, and layers of such stores, which may be layers themselves. -/
inductive Built : Store → Prop
  | configs (configs : List Config) (environment : Option Int64) :
      Built (.ofConfigs configs environment)
  | values (values : List (String × Value)) : Built (.ofValues values)
  | document (text : String) (store : Store) (loaded : Store.ofDocument text = .ok store) :
      Built store
  | dump (bs : Bytes) (environment : Int64) (store : Store)
      (loaded : Store.ofDump bs environment = .ok store) : Built store
  | live (snapshots : List Snapshot) : Built (.live (Live.replay snapshots))
  | layers (stores : List Store) (each : ∀ s ∈ stores, Built s) : Built (.layers stores)

/-- Merged keys are those of either list. -/
theorem mem_mergeKeys (xs ys : List String) (key : String) :
    key ∈ mergeKeys xs ys ↔ key ∈ xs ∨ key ∈ ys := by
  have listed : ((xs ++ ys).map fun key => (key, ())).map Prod.fst = xs ++ ys := by
    rw [List.map_map]
    exact List.map_id _
  rw [mergeKeys, Std.ExtTreeMap.mem_keys, Std.ExtTreeMap.mem_ofList, listed,
    List.contains_iff_mem, List.mem_append]

/-- Merged keys ascend strictly, whatever the order of the two lists. -/
theorem mergeKeys_pairwise_lt (xs ys : List String) : (mergeKeys xs ys).Pairwise (· < ·) :=
  KeyedTable.keys_pairwise_lt _

/-- A store lists its keys in ascending order, each once. -/
theorem keys_pairwise_lt (store : Store) : store.keys.Pairwise (· < ·) := by
  cases store with
  | table configs environment => exact KeyedTable.keys_pairwise_lt configs
  | live state => exact state.keys_ascending
  | layers stores =>
    cases stores with
    | nil => exact .nil
    | cons s rest => exact mergeKeys_pairwise_lt s.keys (allKeys rest)

mutual

/-- A store lists exactly the keys that it has a config for. -/
theorem mem_keys_iff (key : String) : (store : Store) →
    (key ∈ store.keys ↔ (store.config? key).isSome)
  | .table configs _ => KeyedTable.mem_keys_iff_isSome configs key
  | .live state => state.mem_keys key
  | .layers stores => mem_allKeys_iff key stores
termination_by structural store => store

/-- Layers list exactly the keys that one of them has a config for. -/
theorem mem_allKeys_iff (key : String) : (stores : List Store) →
    (key ∈ allKeys stores ↔ (firstConfig? key stores).isSome)
  | [] => by simp [allKeys, firstConfig?]
  | s :: rest => by
    rw [allKeys, mem_mergeKeys, mem_keys_iff key s, mem_allKeys_iff key rest, firstConfig?,
      Option.orElse_eq_orElse, Option.orElse_eq_or, Option.isSome_or, Bool.or_eq_true]
termination_by structural stores => stores

end

/-- Stores that have the same configs list the same keys. -/
theorem keys_eq_of_configs (store other : Store)
    (same : ∀ key, store.config? key = other.config? key) : store.keys = other.keys := by
  have distinct (s : Store) : s.keys.Nodup := by
    refine s.keys_pairwise_lt.imp ?_
    rintro a _ less rfl
    exact String.lt_irrefl a less
  have members (key : String) : key ∈ store.keys ↔ key ∈ other.keys := by
    rw [mem_keys_iff, mem_keys_iff, same]
  refine List.Perm.eq_of_pairwise ?_ store.keys_pairwise_lt other.keys_pairwise_lt
    ((List.perm_ext_iff_of_nodup (distinct store) (distinct other)).mpr members)
  intro a b _ _ before after
  exact absurd after (String.lt_asymm before)

/-- A table made of configs holds, for a key, the last of them that has it. -/
theorem ofConfigs_config? (configs : List Config) (environment : Option Int64) (key : String) :
    (ofConfigs configs environment).config? key = lastOf? key configs := by
  show (Table.ofConfigs configs)[key]? = _
  rw [Table.ofConfigs, KeyedTable.getElem?_ofList_eq, lastOf?, List.filter_map, List.getLast?_map,
    Option.map_map]
  exact Option.map_id' ..

/-- A table of configs has each of them under its own key. -/
theorem ofConfigs_key (configs : List Config) (environment : Option Int64) (key : String)
    (c : Config) (held : (ofConfigs configs environment).config? key = some c) : c.key = key := by
  have listed := KeyedTable.mem_of_getElem?_ofList _ key c held
  obtain ⟨found, -, same⟩ := List.mem_map.mp listed
  obtain ⟨rfl, rfl⟩ := Prod.mk.inj same
  rfl

/-- A store that came about has each config under the config's own key. -/
theorem Built.config?_key {store : Store} (built : store.Built) (key : String) (c : Config)
    (held : store.config? key = some c) : c.key = key := by
  induction built with
  | configs configs environment => exact ofConfigs_key configs environment key c held
  | values values => exact ofConfigs_key _ none key c held
  | document text store loaded =>
    obtain ⟨configs, -, rfl⟩ := (Outcome.map_ok_iff ..).mp loaded
    exact ofConfigs_key configs none key c held
  | dump bs environment store loaded =>
    unfold ofDump at loaded
    cases decoded : Dump.decode? bs with
    | none => simp [decoded] at loaded
    | some configs =>
      simp only [decoded, Except.ok.injEq] at loaded
      subst loaded
      exact ofConfigs_key configs (some environment) key c held
  | live snapshots =>
    rw [config?, Live.reflects_served _ _ (Live.replay_reflects snapshots), served?,
      Option.filter_eq_some_iff] at held
    exact (NewestRecord.newest_sound key _ c held.1).2.1
  | layers stores _ each =>
    rw [config?, firstConfig?_eq] at held
    obtain ⟨s, member, there⟩ := List.exists_of_findSome?_eq_some held
    exact each s member there

end Store

namespace Resolver

/-- A value that is decided is not settled for other reasons than a missing config, if the opening
of secrets does not fail for that. -/
theorem settle_not_missing (r : Resolver) (opener : Opener) (target : ValueType)
    (selected value : Value)
    (opens : ∀ name sealed error, opener name sealed = .error error →
      ∀ key, error ≠ .missingConfig key)
    (error : ConfigError) (failed : r.settle opener target selected value = .error error)
    (key : String) : error ≠ .missingConfig key := by
  obtain ⟨p, unread⟩ | ⟨sealed, name, closed⟩ :=
    r.settle_error opener target selected value error failed
  · rcases r.provide_error p target _ error unread with rfl | rfl | rfl <;> simp
  · exact opens name sealed error closed key

/-- Resolving a key reports a missing config exactly if the key has none, and names the key. What
else can fail is the choice of an arm, the reading of a variable and the opening of a secret. -/
theorem resolveWith_missing_iff (r : Resolver) (opener : Opener) (context : Context)
    (key name : String)
    (opens : ∀ name sealed error, opener name sealed = .error error →
      ∀ key, error ≠ .missingConfig key) :
    r.resolveWith opener context key = .error (.missingConfig name) ↔
      name = key ∧ r.catalog.config? key = none := by
  constructor
  · intro failed
    have course := r.resolveWith_course context key opener
    rw [failed] at course
    generalize outcome : Except.error (α := Resolution) (ConfigError.missingConfig name) = result
      at course
    cases course with
    | missing absent => exact ⟨ConfigError.missingConfig.inj (Except.error.inj outcome), absent⟩
    | unmatched config held none => contradiction
    | undecided selected serves cause stuck =>
      obtain rfl := Except.error.inj outcome
      obtain ⟨same, -⟩ := r.choose_error context key selected _ stuck
      contradiction
    | decided config held found serves arm value chosen =>
      have unsettled := (Outcome.map_error_iff ..).mp outcome.symm
      exact absurd rfl (r.settle_not_missing opener _ _ value opens _ unsettled name)
  · rintro ⟨rfl, absent⟩
    simp [resolveWith, absent]

/-- At every level, and so for every limit, a missing config is reported only for the key that is
asked for. The failure of a secret's key is wrapped on its way up. -/
theorem resolve_missing_iff (r : Resolver) (context : Context) (key name : String) :
    r.resolve context key = .error (.missingConfig name) ↔
      name = key ∧ r.catalog.config? key = none := by
  rw [resolve, resolveAt_eq]
  apply resolveWith_missing_iff
  intro secret sealed error failed other
  obtain ⟨fault, rfl⟩ := openerAt_error context r.depth r key secret sealed error failed
  simp

end Resolver

namespace Store

/-- For a store that came about, the list of keys, the lookup and the report of a missing config
agree: the keys ascend strictly, they are those that the store has a config for, and each config is
had under its own key. Resolving a key reports a missing config exactly if the key is not listed,
and then for this key; no other missing config, be it of a segment or of the key to a secret, is
reported as such. -/
theorem keys_lookup_resolve_agree (store : Store) (built : store.Built) :
    store.keys.Pairwise (· < ·) ∧
    (∀ key, key ∈ store.keys ↔ (store.config? key).isSome) ∧
    (∀ key c, store.config? key = some c → c.key = key) ∧
    ∀ r : Resolver, r.catalog = store.catalog → ∀ context key,
      ((∃ name, r.resolve context key = .error (.missingConfig name)) ↔ key ∉ store.keys) ∧
      ∀ name, r.resolve context key = .error (.missingConfig name) → name = key := by
  refine ⟨store.keys_pairwise_lt, fun key => mem_keys_iff key store, built.config?_key, ?_⟩
  intro r same context key
  have absent : r.catalog.config? key = none ↔ key ∉ store.keys := by
    rw [mem_keys_iff, Option.not_isSome_iff_eq_none, same]
    rfl
  constructor
  · rw [← absent]
    constructor
    · rintro ⟨name, missing⟩
      exact ((r.resolve_missing_iff context key name).mp missing).2
    · intro none
      exact ⟨key, (r.resolve_missing_iff context key key).mpr ⟨rfl, none⟩⟩
  · intro name missing
    exact ((r.resolve_missing_iff context key name).mp missing).1

/-- Layers of a live store, in which a key has been deleted, and of a table, in which a secret names
that key. -/
def orphaned : Store :=
  .layers [.live (Live.replay [{ configs := [{ id := 1, key := "master", rows := [{}] }] },
    { configs := [{ id := 2, key := "master" }] }]),
    .layers [.ofConfigs [Resolver.sealedWith 3 "token" "master"] (some 7)]]

/-- The deleted key is missing. The secret is not, though it cannot be opened. -/
theorem orphaned_reports_master : orphaned.Built ∧ orphaned.keys = ["token"] ∧
    Resolver.resolve { catalog := orphaned.catalog } ∅ "master" =
      .error (.missingConfig "master") ∧
    ∀ name, Resolver.resolve { catalog := orphaned.catalog } ∅ "token" ≠
      .error (.missingConfig name) := by
  have built : orphaned.Built := by
    refine .layers _ fun s member => ?_
    simp only [List.mem_cons, List.not_mem_nil, or_false] at member
    rcases member with rfl | rfl
    · exact .live _
    · exact .layers _ fun s member => List.mem_singleton.mp member ▸ .configs _ _
  obtain ⟨-, -, -, resolutions⟩ := keys_lookup_resolve_agree orphaned built
  have keys : orphaned.keys = ["token"] := by decide +kernel
  have unlisted : "master" ∉ orphaned.keys := by simp [keys]
  have listed : "token" ∈ orphaned.keys := by simp [keys]
  refine ⟨built, keys, ?_, ?_⟩
  · obtain ⟨missing, names⟩ := resolutions { catalog := orphaned.catalog } rfl ∅ "master"
    obtain ⟨name, failed⟩ := missing.mpr unlisted
    obtain rfl := names name failed
    exact failed
  · intro name failed
    obtain ⟨missing, -⟩ := resolutions { catalog := orphaned.catalog } rfl ∅ "token"
    exact missing.mp ⟨name, failed⟩ listed

end Store

end LiveConfig
