import LiveConfig.Proofs.DumpRoundTrip
import LiveConfig.Proofs.SourcePrecedence
import LiveConfig.Proofs.StoreKeys

/-!
# Paths of delivery

Configs come into a store as they are, through the bytes of a dump, or through the bytes of a
snapshot that a live store takes in. The first two paths end in the same table, in which the last
config of a key counts. A live store keeps records by their ids instead, it does not serve those
without rows, and an empty snapshot does not bind it to an environment.

So the paths can be told apart only by configs that share a key, by deletions, and by sending
nothing. `delivery_paths_agree` says that without these they cannot: whatever is asked of the three
stores, they answer alike.
-/

namespace LiveConfig

/-- Stores that answer alike, whatever they are asked for. -/
structure Store.Alike (store other : Store) : Prop where
  configs : ∀ key, store.config? key = other.config? key
  keys : store.keys = other.keys
  environment : store.environment = other.environment
  defaults : ∀ name, store.default? name = other.default? name

/-- Where no two configs share a key, the newest config of a key is the last one: there is no
other. -/
theorem newest_eq_last (configs : List Config) (distinct : (configs.map Config.key).Nodup)
    (key : String) : newest? key configs = lastOf? key configs := by
  have once : (configs.filter (·.key == key)).length ≤ 1 := by
    rw [← List.countP_eq_length_filter]
    have counted := List.nodup_iff_count_le_one.mp distinct key
    rwa [List.count, List.countP_map] at counted
  unfold newest? lastOf?
  cases own : configs.filter (·.key == key) with
  | nil => rfl
  | cons c others =>
    have alone : others = [] := by
      rw [own, List.length_cons] at once
      exact List.eq_nil_of_length_eq_zero (by omega)
    simp [alone]

/-- Of configs that have rows the last one of a key is served. -/
theorem last_served (configs : List Config) (rows : ∀ c ∈ configs, c.rows ≠ []) (key : String) :
    (lastOf? key configs).filter (fun c => !c.isTombstone) = lastOf? key configs := by
  cases last : lastOf? key configs with
  | none => rfl
  | some c =>
    have member : c ∈ configs := List.mem_of_mem_filter (List.mem_of_getLast? last)
    rw [Option.filter_some, Config.isTombstone]
    simp [rows c member]

/-- A fresh live store that has taken in configs with different keys, all of them with rows, answers
like the table of these configs. -/
theorem Store.live_alike_table (configs : List Config) (environment : Int64) (some : configs ≠ [])
    (distinct : (configs.map Config.key).Nodup) (rows : ∀ c ∈ configs, c.rows ≠ []) :
    (Store.live (Live.replay [{ configs, environment := Option.some environment }])).Alike
      (.ofConfigs configs (Option.some environment)) := by
  have records : delivered [{ configs, environment := Option.some environment }] = configs := by
    simp [delivered]
  have served (key : String) :
      (Live.replay [{ configs, environment := Option.some environment }]).config? key =
        (Store.ofConfigs configs (Option.some environment)).config? key := by
    rw [Live.reflects_served _ _ (Live.replay_reflects _), records, ofConfigs_config?, served?,
      newest_eq_last configs distinct key]
    exact last_served configs rows key
  obtain ⟨binding, context, -⟩ :=
    Live.apply_surroundings {} { configs, environment := Option.some environment }
  constructor
  · exact served
  · exact keys_eq_of_configs _ _ served
  · refine binding.trans ?_
    rw [Live.nextEnvironment, if_neg (by simpa using some)]
    rfl
  · intro name
    show Context.property? (Live.apply {} _).1.defaultContext name = none
    rw [context]
    rfl

/-- The table of a dump is the table of the configs in it that are not marked as deleted, if the
reader has levels enough. -/
theorem Store.ofDump_encodeWrapped (wrappers : List Wrapper) (environment : Int64)
    (wellFormed : ∀ c ∈ Dump.kept wrappers, c.WellFormed)
    (short : (Dump.encodeWrapped wrappers).length < UInt64.size) :
    ofDump (Dump.encodeWrapped wrappers) environment =
      if Dump.nesting wrappers ≤ Wire.depthLimit then
        .ok (ofConfigs (Dump.kept wrappers) (some environment))
      else .error .undecodable := by
  rw [ofDump, Dump.decode_encodeWrapped wrappers wellFormed short, Wire.within]
  by_cases enough : Dump.nesting wrappers ≤ Wire.depthLimit
  · simp only [if_pos enough]
  · simp only [if_neg enough]

/-- Delivered as they are, through a dump or through a snapshot, configs make stores that answer
alike.

A dump makes the table of the configs in it that are not marked as deleted; so if none is, it makes
the same table as the configs themselves, in which the last config of a key counts, however many
share the key. A snapshot for an environment makes a live store that answers like that table if
there is a config, no two configs share a key and none lacks rows. What nests deeper than a reader
goes is not read at all, and lengths on the wire have 64 bits. -/
theorem delivery_paths_agree :
    (∀ wrappers environment, (∀ c ∈ Dump.kept wrappers, c.WellFormed) →
      (Dump.encodeWrapped wrappers).length < UInt64.size →
      Store.ofDump (Dump.encodeWrapped wrappers) environment =
        if Dump.nesting wrappers ≤ Wire.depthLimit then
          .ok (.ofConfigs (Dump.kept wrappers) (some environment))
        else .error .undecodable) ∧
    ∀ configs environment, (∀ c ∈ configs, c.WellFormed) →
      (Dump.encode configs).length < UInt64.size →
      Dump.nesting (Dump.wrap configs) ≤ Wire.depthLimit →
      Store.ofDump (Dump.encode configs) environment =
        .ok (.ofConfigs configs (some environment)) ∧
      (∀ key, (Store.ofConfigs configs (some environment)).config? key = lastOf? key configs) ∧
      (configs ≠ [] → (configs.map Config.key).Nodup → (∀ c ∈ configs, c.rows ≠ []) →
        (Snapshot.encode { configs, environment := some environment }).length < UInt64.size →
        ∃ s, Snapshot.decode? (Snapshot.encode { configs, environment := some environment }) =
            some s ∧
          (Store.live (Live.replay [s])).Alike (.ofConfigs configs (some environment))) := by
  refine ⟨Store.ofDump_encodeWrapped, ?_⟩
  intro configs environment wellFormed short nested
  refine ⟨?_, Store.ofConfigs_config? configs (some environment), ?_⟩
  · rw [Dump.encode_eq] at short ⊢
    rw [Store.ofDump_encodeWrapped _ environment (by rwa [Dump.kept_wrap]) short, if_pos nested,
      Dump.kept_wrap]
  · intro some distinct rows shortSnapshot
    have shallow := Nat.le_trans
      (Dump.snapshot_nesting_le configs (Option.some environment) some) nested
    exact ⟨_, Snapshot.decode_shallow _ ⟨wellFormed, nofun⟩ shortSnapshot shallow,
      Store.live_alike_table configs environment some distinct rows⟩

/-- Two configs that are easily told apart by their path: an id below zero, an empty key, a row for
the environment zero and a row without rules. -/
def travellers : List Config :=
  [{ id := -2, key := "rate", kind := .featureFlag,
     rows := [{ environment := some 0, rules := [.delicate] }] },
    { key := "", rows := [{}] }]

/-- They are not told apart, and of a dump in which one of them is marked as deleted the other one
is left. -/
theorem travellers_arrive :
    (Store.ofDump (Dump.encodeWrapped
        [{ config := travellers.head?, deleted := true, created := 5 }, { config := none },
          { config := travellers.getLast? }]) 0 =
      .ok (.ofConfigs [{ key := "", rows := [{}] }] (some 0))) ∧
    Store.ofDump (Dump.encode travellers) 0 = .ok (.ofConfigs travellers (some 0)) ∧
    ∃ s, Snapshot.decode? (Snapshot.encode { configs := travellers, environment := some 0 }) =
        some s ∧
      (Store.live (Live.replay [s])).Alike (.ofConfigs travellers (some 0)) := by
  obtain ⟨dumps, paths⟩ := delivery_paths_agree
  have wellFormed : ∀ c ∈ travellers, c.WellFormed := by decide +kernel
  have short : (Dump.encode travellers).length < UInt64.size := by decide +kernel
  have nested : Dump.nesting (Dump.wrap travellers) ≤ Wire.depthLimit := by decide +kernel
  obtain ⟨dump, -, snapshot⟩ := paths travellers 0 wellFormed short nested
  refine ⟨?_, dump, ?_⟩
  · exact dumps [{ config := travellers.head?, deleted := true, created := 5 }, { config := none },
      { config := travellers.getLast? }] 0 (by decide +kernel) (by decide +kernel)
  · exact snapshot (by decide) (by decide) (by decide) (by decide +kernel)

end LiveConfig
