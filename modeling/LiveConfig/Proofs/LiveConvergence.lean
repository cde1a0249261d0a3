import Mathlib.Order.Bounds.Basic
import LiveConfig.Proofs.NewestRecord
import LiveConfig.Store.Live

/-!
# Convergence of the live store

A live store forgets most of what it takes in. `Live.Reflects` says what it still knows of all
records that have arrived: for each key the record that counts among them, and the greatest id. One
record more keeps this, hence every snapshot and every history of snapshots does.

What is served is therefore a function of the records delivered, and where key and id name a record
not even their order or repetition matters. That deletions are kept, and not only carried out, is
what makes this hold: an older record that arrives after a deletion finds the newer id.
-/

namespace LiveConfig

/-- The records of several snapshots, in the order of their delivery. -/
def delivered (snapshots : List Snapshot) : List Config :=
  snapshots.flatMap Snapshot.configs

namespace Live

/-- A fresh store that has taken in snapshots, the first one first. -/
def replay (snapshots : List Snapshot) : Live :=
  snapshots.foldl (fun s snapshot => (s.apply snapshot).1) {}

/-- What a store knows of the records that it has taken in, given all of them in order: the record
that counts for each key, deletions included, and the greatest id, which is never below zero. -/
structure Reflects (s : Live) (history : List Config) : Prop where
  kept : ∀ key, s.records[key]? = newest? key history
  watermark : IsGreatest {id | id = 0 ∨ ∃ c ∈ history, c.id = id} s.watermark

/-- A record is news exactly if it exceeds whatever is kept for its key. -/
theorem is_news_iff (s : Live) (c : Config) :
    s.isNews c = true ↔ ∀ kept, s.records[c.key]? = some kept → kept.id < c.id := by
  simp only [isNews]
  cases s.records[c.key]? <;> simp

/-- What is kept for a key after one more record. -/
theorem take_kept (s : Live) (c : Config) (key : String) :
    (s.take c).records[key]? =
      if c.key = key ∧ ∀ kept, s.records[key]? = some kept → kept.id < c.id then some c
      else s.records[key]? := by
  by_cases own : c.key = key
  · subst own
    simp only [true_and, ← is_news_iff]
    by_cases news : s.isNews c = true <;> simp [take, news]
  · by_cases news : s.isNews c = true <;>
      simp [take, news, own, Std.ExtTreeMap.getElem?_insert]

/-- The watermark after one more record is the greater of the two ids. -/
theorem take_watermark (s : Live) (c : Config) :
    (s.take c).watermark = if s.watermark ≤ c.id then c.id else s.watermark := rfl

/-- A fresh store reflects that nothing has arrived. -/
theorem fresh_reflects : Reflects {} [] where
  kept key := by simp [newest?]
  watermark := by simp [IsGreatest, upperBounds]

/-- Taking in one record keeps the reflection. The store decides by the record that it keeps for the
key, and this is the one that counts among all records so far. -/
theorem take_reflects (s : Live) (history : List Config) (c : Config)
    (reflects : s.Reflects history) : (s.take c).Reflects (history ++ [c]) where
  kept key := by
    rw [take_kept, NewestRecord.newest_concat, reflects.kept key]
  watermark := by
    obtain ⟨attained, greatest⟩ := reflects.watermark
    rw [take_watermark]
    constructor
    · split
      · exact Or.inr ⟨c, by simp, rfl⟩
      · rcases attained with zero | ⟨d, member, same⟩
        · exact Or.inl zero
        · exact Or.inr ⟨d, List.mem_append_left _ member, same⟩
    · intro id present
      have bound : id ≤ s.watermark ∨ id = c.id := by
        rcases present with zero | ⟨d, member, same⟩
        · exact Or.inl (greatest (Or.inl zero))
        · rcases List.mem_append.mp member with early | last
          · exact Or.inl (greatest (Or.inr ⟨d, early, same⟩))
          · exact Or.inr (List.mem_singleton.mp last ▸ same.symm)
      split <;> grind

/-- Counting effects does not influence what is taken in. -/
theorem take_all_store (s : Live) (applied : Applied) (records : List Config) :
    (s.takeAll applied records).1 = records.foldl take s := by
  induction records generalizing s applied with
  | nil => rfl
  | cons c rest inductionHypothesis => exact inductionHypothesis (s.take c) _

/-- Taking in records changes only what is kept and the watermark. -/
theorem take_surroundings (s : Live) (records : List Config) :
    (records.foldl take s).environment = s.environment ∧
      (records.foldl take s).defaultContext = s.defaultContext ∧
      (records.foldl take s).initialized = s.initialized := by
  induction records generalizing s with
  | nil => exact ⟨rfl, rfl, rfl⟩
  | cons c rest inductionHypothesis => exact inductionHypothesis (s.take c)

/-- What a snapshot makes of the rest of a store. -/
theorem apply_surroundings (s : Live) (snapshot : Snapshot) :
    (s.apply snapshot).1.environment = s.nextEnvironment snapshot ∧
      (s.apply snapshot).1.defaultContext = snapshot.defaultContext.getD s.defaultContext ∧
      (s.apply snapshot).1.initialized = true := by
  simp only [apply, take_all_store]
  exact take_surroundings _ snapshot.configs

/-- Taking in any number of records keeps the reflection. -/
theorem take_all_reflects (s : Live) (history records : List Config) (applied : Applied)
    (reflects : s.Reflects history) :
    (s.takeAll applied records).1.Reflects (history ++ records) := by
  rw [take_all_store]
  induction records generalizing s history with
  | nil => simpa using reflects
  | cons c rest inductionHypothesis =>
    have step := inductionHypothesis (s.take c) (history ++ [c])
      (take_reflects s history c reflects)
    simpa using step

/-- Applying a snapshot keeps the reflection: the environment, the default context and the mark that
something has arrived play no part in it. -/
theorem apply_reflects (s : Live) (history : List Config) (snapshot : Snapshot)
    (reflects : s.Reflects history) :
    (s.apply snapshot).1.Reflects (history ++ snapshot.configs) :=
  take_all_reflects _ history snapshot.configs {} ⟨reflects.kept, reflects.watermark⟩

/-- The watermark is below a bound exactly if it was before and all records taken in are. -/
theorem take_all_below (s : Live) (records : List Config) (bound : Int64) :
    (records.foldl take s).watermark < bound ↔
      s.watermark < bound ∧ ∀ c ∈ records, c.id < bound := by
  induction records generalizing s with
  | nil => simp
  | cons c rest inductionHypothesis =>
    rw [List.foldl_cons, inductionHypothesis, take_watermark, List.forall_mem_cons]
    split <;> grind

/-- The watermark after a snapshot is below a bound exactly if it was before and all records of the
snapshot are. -/
theorem apply_below (s : Live) (snapshot : Snapshot) (bound : Int64) :
    (s.apply snapshot).1.watermark < bound ↔
      s.watermark < bound ∧ ∀ c ∈ snapshot.configs, c.id < bound := by
  simp only [apply, take_all_store, take_all_below]

/-- After any history of snapshots a fresh store reflects all records that were delivered. -/
theorem replay_reflects (snapshots : List Snapshot) :
    (replay snapshots).Reflects (delivered snapshots) := by
  induction snapshots using List.reverseRecOn with
  | nil => exact fresh_reflects
  | append_singleton earlier last inductionHypothesis =>
    have step := apply_reflects (replay earlier) (delivered earlier) last inductionHypothesis
    simpa [replay, delivered] using step

/-- A store serves what the records that it has taken in serve. -/
theorem reflects_served (s : Live) (history : List Config) (reflects : s.Reflects history)
    (key : String) : s.config? key = served? key history := by
  rw [config?, served?, reflects.kept key]

/-- Two stores that have taken in the same records, in whatever order and however often, keep the
same records and have the same watermark. -/
theorem reflects_unique (s t : Live) (history other : List Config) (reflects : s.Reflects history)
    (reflectsOther : t.Reflects other) (same : ∀ c, c ∈ other ↔ c ∈ history)
    (unambiguous : Unambiguous history) :
    t.records = s.records ∧ t.watermark = s.watermark := by
  constructor
  · apply Std.ExtTreeMap.ext_getElem?
    intro key
    rw [reflects.kept, reflectsOther.kept]
    exact NewestRecord.newest_congr key history other same unambiguous
  · have watermark := reflectsOther.watermark
    simp only [same] at watermark
    exact Int64.le_antisymm (reflects.watermark.2 watermark.1)
      (watermark.2 reflects.watermark.1)

/-- The keys of a store are exactly those that it serves. -/
theorem mem_keys (s : Live) (key : String) : key ∈ s.keys ↔ (s.config? key).isSome := by
  simp only [keys, config?, List.mem_map, List.mem_filter, Prod.exists, exists_and_right,
    exists_eq_right, Std.ExtTreeMap.mem_toList_iff_getElem?_eq_some]
  cases s.records[key]? <;> simp [Option.isSome_filter]

/-- The keys of a store ascend strictly, so none occurs twice. -/
theorem keys_ascending (s : Live) : s.keys.Pairwise (· < ·) := by
  have ordered : s.records.toList.Pairwise fun a b => a.1 < b.1 := by
    refine Std.ExtTreeMap.ordered_keys_toList.imp ?_
    intro a b before
    exact compareOfLessAndEq_eq_lt.mp before
  exact List.pairwise_map.mpr (ordered.filter _)

/-- A store that has taken in snapshots serves, for each key, the first record with the greatest id
of all that were delivered for it, unless that record marks a deletion. Its keys are the served ones
in ascending order without repetition, its size is their number, and its watermark is the greatest
of zero and all ids delivered.

Where key and id name a record, any snapshots that deliver the same records leave the same store
behind for lookups, however the records are ordered, cut into snapshots or repeated. -/
theorem replay_converges (snapshots : List Snapshot) :
    (∀ key, (replay snapshots).config? key = served? key (delivered snapshots)) ∧
    (replay snapshots).keys.Pairwise (· < ·) ∧
    (∀ key, key ∈ (replay snapshots).keys ↔ ((replay snapshots).config? key).isSome) ∧
    (replay snapshots).size = (replay snapshots).keys.length ∧
    IsGreatest {id | id = 0 ∨ ∃ c ∈ delivered snapshots, c.id = id} (replay snapshots).watermark ∧
    (Unambiguous (delivered snapshots) → ∀ others,
      (∀ c, c ∈ delivered others ↔ c ∈ delivered snapshots) →
        (∀ key, (replay others).config? key = (replay snapshots).config? key) ∧
        (replay others).keys = (replay snapshots).keys ∧
        (replay others).size = (replay snapshots).size ∧
        (replay others).watermark = (replay snapshots).watermark) := by
  have reflects := replay_reflects snapshots
  refine ⟨reflects_served _ _ reflects, keys_ascending _, mem_keys _, rfl, reflects.watermark, ?_⟩
  intro unambiguous others same
  obtain ⟨records, watermark⟩ :=
    reflects_unique _ _ _ _ reflects (replay_reflects others) same unambiguous
  have keys : (replay others).keys = (replay snapshots).keys := by
    simp only [Live.keys, records]
  refine ⟨?_, keys, congrArg List.length keys, watermark⟩
  intro key
  simp only [config?, records]

/-- The deletion of `b` has a greater id than its record. The record is delivered after it, twice
and in other company, and yet both histories end alike. -/
theorem stale_record_replay :
    Unambiguous (delivered [{ configs := [{ id := 3, key := "a", rows := [{}] },
      { id := 2, key := "b", rows := [{}] }] }, { configs := [{ id := 4, key := "b" }] }]) ∧
    ∀ key,
      (replay [{ configs := [{ id := 4, key := "b" }, { id := 2, key := "b", rows := [{}] }] },
        { configs := [{ id := 2, key := "b", rows := [{}] }] },
        { configs := [{ id := 3, key := "a", rows := [{}] }] }]).config? key =
      (replay [{ configs := [{ id := 3, key := "a", rows := [{}] },
        { id := 2, key := "b", rows := [{}] }] },
        { configs := [{ id := 4, key := "b" }] }]).config? key := by
  have unambiguous : Unambiguous (delivered [{ configs := [{ id := 3, key := "a", rows := [{}] },
      { id := 2, key := "b", rows := [{}] }] }, { configs := [{ id := 4, key := "b" }] }]) := by
    simp [Unambiguous, delivered]
  refine ⟨unambiguous, ((replay_converges _).2.2.2.2.2 unambiguous _ ?_).1⟩
  intro c
  simp only [delivered, List.flatMap_cons, List.flatMap_nil, List.mem_append, List.mem_cons,
    List.not_mem_nil, or_false]
  tauto

end Live

end LiveConfig
