import Mathlib.Data.Finset.Card
import LiveConfig.Proofs.LiveConvergence
import LiveConfig.Proofs.StoreKeys

/-!
# What a snapshot is reported to have done

A store reports of every record of a snapshot that it was an update, a deletion or ignored. The
report is a matter of the moment: a record may meet others of its key from the same snapshot, and a
deletion of what is not served counts as ignored although it is kept.

`Accounts` says what the report tells of the store before and after. A snapshot that arrives a
second time finds the ids that it has left behind, so all of it is ignored and nothing changes at
all: `apply_accounts`.
-/

namespace LiveConfig.Live

/-- What the records of a list do, each at its moment. -/
def effects (s : Live) : List Config → List Effect
  | [] => []
  | c :: rest => s.effect c :: (s.take c).effects rest

/-- The number of records that are updates of a key that is not served at their moment. -/
def additions (s : Live) : List Config → Nat
  | [] => 0
  | c :: rest =>
    (if s.effect c = .update ∧ (s.config? c.key).isNone then 1 else 0) + (s.take c).additions rest

/-- What is known of a store after a snapshot, given the store before it and the report. -/
structure Accounts (s : Live) (snapshot : Snapshot) (after : Live) (applied : Applied) : Prop where
  /-- Every record is accounted for. -/
  total : applied.updated + applied.deleted + applied.ignored = snapshot.configs.length
  /-- Deletions take a key away, and additions bring one. -/
  size : after.size + applied.deleted = s.size + s.additions snapshot.configs
  /-- Where nothing is updated and nothing deleted, the same is served. -/
  quiet : applied.updated = 0 → applied.deleted = 0 →
    (∀ key, after.config? key = s.config? key) ∧ after.keys = s.keys ∧ after.size = s.size
  environment : after.environment =
    if snapshot.configs = [] then s.environment else snapshot.environment.or s.environment
  defaultContext : after.defaultContext = snapshot.defaultContext.getD s.defaultContext

/-! ## One record -/

/-- What is served for a key after one more record, by what the record does. -/
theorem take_served (s : Live) (c : Config) (key : String) :
    (s.take c).config? key = match s.effect c with
      | .ignore => s.config? key
      | .update => if c.key = key then some c else s.config? key
      | .delete => if c.key = key then none else s.config? key := by
  by_cases own : c.key = key
  · subst own
    have kept : (s.take c).config? c.key =
        if s.isNews c then (some c).filter fun c => !c.isTombstone else s.config? c.key := by
      simp only [config?, take_kept, true_and, ← is_news_iff]
      split <;> rfl
    rw [kept]
    cases news : s.isNews c with
    | false => simp [effect, news]
    | true =>
      cases deleted : c.isTombstone with
      | false => simp [effect, news, deleted]
      | true => cases served : s.config? c.key <;> simp [effect, news, deleted, served]
  · have kept : (s.take c).config? key = s.config? key := by
      simp only [config?, take_kept, own, false_and, if_false]
    cases s.effect c <;> simp [kept, own]

/-- Only a key that is served is deleted. -/
theorem served_of_delete (s : Live) (c : Config) (deletes : s.effect c = .delete) :
    (s.config? c.key).isSome := by
  unfold effect at deletes
  cases news : s.isNews c <;> cases deleted : c.isTombstone <;>
    cases served : (s.config? c.key).isSome <;> simp [news, deleted, served] at deletes ⊢

/-- Stores that serve the same list the same keys. -/
theorem keys_eq_of_served (s t : Live) (same : ∀ key, t.config? key = s.config? key) :
    t.keys = s.keys :=
  Store.keys_eq_of_configs (.live t) (.live s) same

/-- The set of the keys that are served. -/
def served (s : Live) : Finset String :=
  s.keys.toFinset

theorem mem_served (s : Live) (key : String) : key ∈ s.served ↔ (s.config? key).isSome := by
  rw [served, List.mem_toFinset, mem_keys]

theorem card_served (s : Live) : s.served.card = s.size := by
  refine List.toFinset_card_of_nodup (s.keys_ascending.imp ?_)
  rintro a _ less rfl
  exact String.lt_irrefl a less

/-- What one record does to the number of keys. -/
theorem take_size (s : Live) (c : Config) :
    (s.take c).size + (if s.effect c = .delete then 1 else 0) =
      s.size + if s.effect c = .update ∧ (s.config? c.key).isNone then 1 else 0 := by
  simp only [← card_served]
  cases does : s.effect c with
  | ignore =>
    have same : (s.take c).served = s.served := by
      ext key
      simp only [mem_served, take_served, does]
    simp [same]
  | update =>
    have more : (s.take c).served = insert c.key s.served := by
      ext key
      simp only [mem_served, take_served, does, Finset.mem_insert]
      by_cases own : c.key = key
      · simp [own]
      · simp [own, Ne.symm own]
    by_cases present : c.key ∈ s.served
    · have kept : ¬(s.config? c.key).isNone := by
        simpa [mem_served, Option.isSome_iff_ne_none] using present
      simp [more, Finset.insert_eq_of_mem present, kept]
    · have absent : (s.config? c.key).isNone := by
        simpa [mem_served] using present
      simp [more, Finset.card_insert_of_notMem present, absent]
  | delete =>
    have fewer : (s.take c).served = s.served.erase c.key := by
      ext key
      simp only [mem_served, take_served, does, Finset.mem_erase]
      by_cases own : c.key = key
      · simp [own]
      · simp [own, Ne.symm own]
    have present : c.key ∈ s.served := (mem_served s c.key).mpr (s.served_of_delete c does)
    simp [fewer, Finset.card_erase_add_one present]

/-! ## All records of a snapshot -/

/-- What records do depends on what is kept, and on nothing else of a store. -/
theorem effects_of_records (s t : Live) (same : t.records = s.records) (records : List Config) :
    t.effects records = s.effects records ∧ t.additions records = s.additions records := by
  induction records generalizing s t with
  | nil => exact ⟨rfl, rfl⟩
  | cons c rest inductionHypothesis =>
    have news : t.isNews c = s.isNews c := by rw [isNews, isNews, same]
    have served : t.config? c.key = s.config? c.key := by rw [config?, config?, same]
    have effect : t.effect c = s.effect c := by rw [Live.effect, Live.effect, news, served]
    have next : (t.take c).records = (s.take c).records := by simp only [take, news, same]
    obtain ⟨later, laterAdditions⟩ := inductionHypothesis (s.take c) (t.take c) next
    simp only [effects, additions, effect, served, later, laterAdditions, and_self]

/-- Effects are reported by counting them. -/
theorem take_all_applied (s : Live) (applied : Applied) (records : List Config) :
    (s.takeAll applied records).2 =
      { applied with
        updated := applied.updated + (s.effects records).count .update
        deleted := applied.deleted + (s.effects records).count .delete
        ignored := applied.ignored + (s.effects records).count .ignore } := by
  induction records generalizing s applied with
  | nil => rfl
  | cons c rest inductionHypothesis =>
    rw [takeAll, inductionHypothesis, effects]
    cases s.effect c <;> simp [Applied.count, Nat.add_assoc, Nat.add_comm 1]

/-- The records of a snapshot are taken in by a store that keeps the same records as the one before
the snapshot, and their effects are what is reported. -/
theorem apply_eq (s : Live) (snapshot : Snapshot) :
    ∃ received : Live, received.records = s.records ∧
      (s.apply snapshot).1 = snapshot.configs.foldl take received ∧
      (s.apply snapshot).2 =
        { updated := (s.effects snapshot.configs).count .update
          deleted := (s.effects snapshot.configs).count .delete
          ignored := (s.effects snapshot.configs).count .ignore
          watermark := (s.apply snapshot).1.watermark } := by
  refine ⟨_, ?_, take_all_store _ {} snapshot.configs, ?_⟩
  · rfl
  · obtain ⟨same, -⟩ := effects_of_records s
      { s with
        environment := s.nextEnvironment snapshot
        defaultContext := snapshot.defaultContext.getD s.defaultContext
        initialized := true } rfl snapshot.configs
    simp only [apply, take_all_applied, same, Nat.zero_add]

/-- Every record has one effect. -/
theorem effects_total (s : Live) (records : List Config) :
    (s.effects records).count .update + (s.effects records).count .delete +
      (s.effects records).count .ignore = records.length := by
  induction records generalizing s with
  | nil => rfl
  | cons c rest inductionHypothesis =>
    have later := inductionHypothesis (s.take c)
    rw [effects, List.length_cons, ← later]
    cases s.effect c <;> simp <;> omega

/-- What records do to the number of keys. -/
theorem take_all_size (s : Live) (records : List Config) :
    (records.foldl take s).size + (s.effects records).count .delete =
      s.size + s.additions records := by
  induction records generalizing s with
  | nil => rfl
  | cons c rest inductionHypothesis =>
    have step := s.take_size c
    have later := inductionHypothesis (s.take c)
    simp only [List.foldl_cons, effects, additions, List.count_cons, beq_iff_eq]
    omega

/-- Effects that are neither updates nor deletions ignore their records. -/
theorem all_ignored (effects : List Effect) (updates : effects.count .update = 0)
    (deletions : effects.count .delete = 0) : ∀ effect ∈ effects, effect = .ignore := by
  intro effect member
  cases effect with
  | ignore => rfl
  | update => exact absurd member (List.count_eq_zero.mp updates)
  | delete => exact absurd member (List.count_eq_zero.mp deletions)

/-- Records that are all ignored leave what is served as it is. -/
theorem take_all_quiet (s : Live) (records : List Config)
    (ignored : ∀ effect ∈ s.effects records, effect = .ignore) (key : String) :
    (records.foldl take s).config? key = s.config? key := by
  induction records generalizing s with
  | nil => rfl
  | cons c rest inductionHypothesis =>
    obtain ⟨here, later⟩ := List.forall_mem_cons.mp ignored
    rw [List.foldl_cons, inductionHypothesis (s.take c) later, take_served, here]

/-! ## Once more -/

/-- A record that is no news stays none. -/
theorem take_settled (s : Live) (c d : Config) (settled : s.isNews c = false) :
    (s.take d).isNews c = false := by
  rw [← Bool.not_eq_true, is_news_iff] at settled ⊢
  intro news
  apply settled
  intro kept held
  by_cases replaced : d.key = c.key ∧ ∀ kept, s.records[c.key]? = some kept → kept.id < d.id
  · have newer := news d (by rw [take_kept, if_pos replaced])
    have := replaced.2 kept held
    grind
  · exact news kept (by rw [take_kept, if_neg replaced, held])

/-- A record that has been taken in is no news. -/
theorem take_own (s : Live) (c : Config) : (s.take c).isNews c = false := by
  rw [← Bool.not_eq_true, is_news_iff]
  intro news
  by_cases replaced : ∀ kept, s.records[c.key]? = some kept → kept.id < c.id
  · have := news c (by rw [take_kept, if_pos ⟨rfl, replaced⟩])
    grind
  · exact replaced fun kept held => news kept (by rw [take_kept, if_neg (by tauto), held])

/-- Records that have been taken in are no news. -/
theorem take_all_settled (s : Live) (records : List Config) (c : Config)
    (arrived : s.isNews c = false ∨ c ∈ records) : (records.foldl take s).isNews c = false := by
  induction records generalizing s with
  | nil => simpa using arrived
  | cons d rest inductionHypothesis =>
    apply inductionHypothesis (s.take d)
    rcases arrived with settled | member
    · exact .inl (s.take_settled c d settled)
    · rcases List.mem_cons.mp member with rfl | later
      · exact .inl (s.take_own c)
      · exact .inr later

/-- A record that is no news and does not exceed the watermark changes nothing. -/
theorem take_known (s : Live) (c : Config) (settled : s.isNews c = false)
    (below : c.id ≤ s.watermark) : s.take c = s := by
  have watermark : max s.watermark c.id = s.watermark := by
    show (if s.watermark ≤ c.id then c.id else s.watermark) = s.watermark
    split
    case isTrue equal => exact Int64.le_antisymm below equal
    case isFalse => rfl
  simp only [take, settled, watermark, Bool.false_eq_true, if_false]

/-- Records that are no news and do not exceed the watermark change nothing, and all are ignored. -/
theorem take_all_known (s : Live) (records : List Config)
    (known : ∀ c ∈ records, s.isNews c = false ∧ c.id ≤ s.watermark) :
    records.foldl take s = s ∧ s.effects records = List.replicate records.length .ignore := by
  induction records with
  | nil => exact ⟨rfl, rfl⟩
  | cons c rest inductionHypothesis =>
    obtain ⟨⟨settled, below⟩, others⟩ := List.forall_mem_cons.mp known
    obtain ⟨same, ignored⟩ := inductionHypothesis others
    have ignores : s.effect c = .ignore := by simp [effect, settled]
    constructor
    · rw [List.foldl_cons, s.take_known c settled below, same]
    · rw [effects, s.take_known c settled below, ignores, ignored, List.length_cons,
        List.replicate_succ]

/-- A snapshot that is applied again right away is ignored, and changes nothing. -/
theorem apply_again (s : Live) (snapshot : Snapshot) :
    (s.apply snapshot).1.apply snapshot =
      ((s.apply snapshot).1,
        { ignored := snapshot.configs.length, watermark := (s.apply snapshot).1.watermark }) := by
  obtain ⟨environment, defaultContext, initialized⟩ := s.apply_surroundings snapshot
  have known : ∀ c ∈ snapshot.configs,
      (s.apply snapshot).1.isNews c = false ∧ c.id ≤ (s.apply snapshot).1.watermark := by
    intro c member
    constructor
    · simp only [apply, take_all_store]
      exact take_all_settled _ snapshot.configs c (.inr member)
    · rw [← Int64.not_lt, apply_below]
      intro exceeds
      exact Int64.lt_irrefl (exceeds.2 c member)
  obtain ⟨same, ignored⟩ := take_all_known _ snapshot.configs known
  have sameEnvironment :
      (s.apply snapshot).1.nextEnvironment snapshot = (s.apply snapshot).1.environment := by
    rw [nextEnvironment, environment, nextEnvironment]
    cases snapshot.configs.isEmpty <;> cases snapshot.environment <;> rfl
  have sameDefaults : snapshot.defaultContext.getD (s.apply snapshot).1.defaultContext =
      (s.apply snapshot).1.defaultContext := by
    rw [defaultContext]
    cases snapshot.defaultContext <;> rfl
  have after : ((s.apply snapshot).1.apply snapshot).1 = (s.apply snapshot).1 := by
    rw [apply]
    simp only [take_all_store, sameEnvironment, sameDefaults, ← initialized]
    exact same
  obtain ⟨_, -, -, applied⟩ := (s.apply snapshot).1.apply_eq snapshot
  refine Prod.ext after ?_
  rw [applied, ignored, after]
  simp [List.count_replicate]

/-- What every snapshot does to a store is as reported. The same snapshot, applied again right away,
is ignored as a whole and leaves the store as it was. -/
theorem apply_accounts (s : Live) (snapshot : Snapshot) :
    s.Accounts snapshot (s.apply snapshot).1 (s.apply snapshot).2 ∧
      (s.apply snapshot).1.apply snapshot =
        ((s.apply snapshot).1,
          { updated := 0, deleted := 0, ignored := snapshot.configs.length
            watermark := (s.apply snapshot).1.watermark }) := by
  obtain ⟨received, records, after, applied⟩ := s.apply_eq snapshot
  obtain ⟨effects, additions⟩ := effects_of_records s received records snapshot.configs
  have keys : received.keys = s.keys := by rw [Live.keys, Live.keys, records]
  refine ⟨⟨?_, ?_, ?_, ?_, ?_⟩, s.apply_again snapshot⟩
  · rw [applied]
    exact s.effects_total snapshot.configs
  · have before : received.size = s.size := congrArg List.length keys
    have size := received.take_all_size snapshot.configs
    rw [effects, additions, ← after, before] at size
    rw [applied]
    exact size
  · intro updates deletions
    rw [applied] at updates deletions
    have ignored := all_ignored _ updates deletions
    rw [← effects] at ignored
    have served (key : String) : (s.apply snapshot).1.config? key = s.config? key := by
      rw [after, take_all_quiet received snapshot.configs ignored key, config?, config?, records]
    have sameKeys := keys_eq_of_served s _ served
    exact ⟨served, sameKeys, congrArg List.length sameKeys⟩
  · rw [(s.apply_surroundings snapshot).1, nextEnvironment]
    cases snapshot.configs <;> cases snapshot.environment <;> rfl
  · exact (s.apply_surroundings snapshot).2.1

/-- A store that serves `a`, and in which `b` has been deleted. -/
def halfServed : Live :=
  replay [{ configs := [{ id := 1, key := "a", rows := [{}] }, { id := 5, key := "b" }] }]

/-- The key `a` is deleted and comes back, an old record of `b` arrives late, and `c` is deleted
before it was ever served. -/
def turmoil : Snapshot where
  configs := [{ id := 2, key := "a" }, { id := 3, key := "a", rows := [{}] },
    { id := 4, key := "b", rows := [{}] }, { id := 9, key := "c" }]

/-- All four records are accounted for, `a` is still the only key, and the second time nothing
happens, not even for the deletion that was reported at first. -/
theorem turmoil_accounted :
    (halfServed.apply turmoil).2 = { updated := 1, deleted := 1, ignored := 2, watermark := 9 } ∧
      (halfServed.apply turmoil).1.size = halfServed.size ∧
      ((halfServed.apply turmoil).1.apply turmoil).2 = { ignored := 4, watermark := 9 } := by
  obtain ⟨accounts, again⟩ := apply_accounts halfServed turmoil
  have applied : (halfServed.apply turmoil).2 =
      { updated := 1, deleted := 1, ignored := 2, watermark := 9 } := by decide +kernel
  have additions : halfServed.additions turmoil.configs = 1 := by decide +kernel
  have size := accounts.size
  rw [applied, additions] at size
  have watermark : (halfServed.apply turmoil).1.watermark = 9 := congrArg Applied.watermark applied
  rw [again, watermark]
  exact ⟨applied, Nat.succ.inj size, rfl⟩

end LiveConfig.Live
