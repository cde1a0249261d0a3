import LiveConfig.Proofs.DecodedValues
import LiveConfig.Proofs.LiveConvergence
import LiveConfig.Proofs.ResolutionCourse
import LiveConfig.Proofs.SnapshotRoundTrip

/-!
# Decoded splits can be decided

Decoded configs stay well-formed wherever they are kept: a live store serves records that it was
sent, a dump's table holds the dump's configs, and layers have what one of them has. So a resolver
over such stores never meets a split without arms, not for the key that it is asked for and not for
a key that a secret names. The second needs an induction, because the failure of a secret's key is
wrapped into the failure of the secret.
-/

namespace LiveConfig

/-- A catalog all of whose configs follow the rules. -/
def Catalog.WellFormed (catalog : Catalog) : Prop :=
  ∀ key c, catalog.config? key = some c → c.WellFormed

/-- A structural fault is what an error comes from: the error itself, or the one for which the key
to a secret could not be resolved, and so on. -/
inductive ConfigError.StemsFrom (fault : ConfigFault) : ConfigError → Prop
  | direct : StemsFrom fault (.invalid fault)
  | wrapped (key : String) (cause : ConfigError) (stems : StemsFrom fault cause) :
      StemsFrom fault (.undecryptable (.keyUnresolved key cause))

/-- Stores that hold decoded configs only: a live store that was sent any payloads and took in those
that could be decoded, a dump that could be decoded, and layers of such stores. -/
inductive Store.Decoded : Store → Prop
  | live (payloads : List Bytes) :
      Decoded (.live (Live.replay (payloads.filterMap Snapshot.decode?)))
  | dump (bs : Bytes) (environment : Int64) (store : Store)
      (loaded : Store.ofDump bs environment = .ok store) : Decoded store
  | layers (stores : List Store) (each : ∀ s ∈ stores, Decoded s) : Decoded (.layers stores)

/-- What a live store serves was in a snapshot. -/
theorem Live.replay_held (snapshots : List Snapshot) (key : String) (c : Config)
    (held : (replay snapshots).config? key = some c) : ∃ s ∈ snapshots, c ∈ s.configs := by
  rw [reflects_served _ _ (replay_reflects snapshots), served?, Option.filter_eq_some_iff] at held
  obtain ⟨member, -⟩ := NewestRecord.newest_sound key _ c held.1
  exact List.mem_flatMap.mp member

/-- What the table of a dump holds was in the dump. -/
theorem Store.ofDump_held (bs : Bytes) (environment : Int64) (store : Store)
    (loaded : ofDump bs environment = .ok store) (key : String) (c : Config)
    (held : store.config? key = some c) :
    ∃ configs, Dump.decode? bs = some configs ∧ c ∈ configs := by
  unfold ofDump at loaded
  cases decoded : Dump.decode? bs with
  | none => simp [decoded] at loaded
  | some configs =>
    simp only [decoded, Except.ok.injEq] at loaded
    obtain rfl := loaded
    have listed := KeyedTable.mem_of_getElem?_ofList _ key c held
    obtain ⟨found, member, same⟩ := List.mem_map.mp listed
    obtain rfl : found = c := congrArg Prod.snd same
    exact ⟨configs, rfl, member⟩

/-- What layers have, one of them has. -/
theorem Store.firstConfig?_held (stores : List Store) (key : String) (c : Config)
    (held : firstConfig? key stores = some c) : ∃ s ∈ stores, s.config? key = some c := by
  induction stores with
  | nil => simp [firstConfig?] at held
  | cons s rest inductionHypothesis =>
    rw [firstConfig?, Option.orElse_eq_orElse, Option.orElse_eq_or, Option.or_eq_some_iff] at held
    rcases held with here | ⟨-, later⟩
    · exact ⟨s, List.mem_cons_self, here⟩
    · obtain ⟨other, member, there⟩ := inductionHypothesis later
      exact ⟨other, List.mem_cons_of_mem s member, there⟩

/-- All configs of a store that holds decoded configs follow the rules. -/
theorem Store.decoded_catalog (store : Store) (decoded : store.Decoded) :
    store.catalog.WellFormed := by
  induction decoded with
  | live payloads =>
    intro key c held
    obtain ⟨s, sent, member⟩ := Live.replay_held _ key c held
    obtain ⟨bs, -, read⟩ := List.mem_filterMap.mp sent
    exact (Snapshot.decoded_well_formed bs s read).configs c member
  | dump bs environment store loaded =>
    intro key c held
    obtain ⟨configs, read, member⟩ := ofDump_held bs environment store loaded key c held
    exact Dump.decoded_well_formed bs configs read c member
  | layers stores _ each =>
    intro key c held
    obtain ⟨s, member, there⟩ := firstConfig?_held stores key c held
    exact each s member key c there

/-- A live store that was sent one snapshot holds decoded configs if the snapshot is read back. -/
theorem Store.decoded_live (s : Snapshot) (wellFormed : s.WellFormed)
    (short : s.encode.length < UInt64.size) (nested : s.nesting ≤ Wire.depthLimit) :
    (Store.live (Live.replay [s])).Decoded := by
  have history := Decoded.live [s.encode]
  rwa [List.filterMap_cons_some (s.decode_shallow wellFormed short nested)] at history

namespace Resolver

/-- A value that is selected from well-formed configs follows the rules. -/
theorem selected?_well_formed (r : Resolver) (context : Context) (key : String) (v : Value)
    (wellFormed : r.catalog.WellFormed) (selected : r.selected? context key = some v) :
    v.WellFormed := by
  obtain ⟨config, held, found⟩ := Option.bind_eq_some_iff.mp selected
  obtain ⟨selection, matched, same⟩ := Option.bind_eq_some_iff.mp found
  obtain rfl := Option.some.inj same
  obtain ⟨row, amongRows, amongRules⟩ := config.select?_mem _ _ selection matched
  refine wellFormed key config held _ ?_
  exact List.mem_flatMap.mpr ⟨row, amongRows, List.mem_flatMap.mpr
    ⟨selection.rule, amongRules, List.mem_cons_self⟩⟩

/-- Reading a provided value does not fail for a split. -/
theorem provide_stems (r : Resolver) (p : Provided) (target : ValueType) (confidential : Bool)
    (error : ConfigError) (failed : r.provide p target confidential = .error error)
    (name : String) : ¬error.StemsFrom (.emptySplit name) := by
  intro stems
  rcases r.provide_error p target confidential error failed with rfl | rfl | rfl <;> cases stems

/-- Resolving a key does not fail for a split that cannot be decided if all configs follow the rules
and opening secrets does not. -/
theorem resolveWith_stems (r : Resolver) (opener : Opener) (context : Context) (key name : String)
    (wellFormed : r.catalog.WellFormed)
    (opens : ∀ secret sealed error, opener secret sealed = .error error →
      ¬error.StemsFrom (.emptySplit name))
    (error : ConfigError) (failed : r.resolveWith opener context key = .error error) :
    ¬error.StemsFrom (.emptySplit name) := by
  have course := r.resolveWith_course context key opener
  rw [failed] at course
  intro stems
  generalize outcome : Except.error (α := Resolution) error = result at course
  cases course with
  | missing absent =>
    obtain rfl := Except.error.inj outcome
    cases stems
  | unmatched config held none => contradiction
  | undecided selected serves cause stuck =>
    obtain rfl := Except.error.inj outcome
    obtain ⟨-, s, split, empty⟩ := r.choose_error context key selected _ stuck
    cases r.selected?_well_formed context key selected wellFormed serves with
    | intro mark sound arms => exact (sound s ((selected.split_iff s).mp split)).arms empty
  | decided config held found serves arm value chosen =>
    obtain provided | ⟨sealed, secret, opened⟩ := r.settle_error opener config.valueType
      found.rule.value value error ((Outcome.map_error_iff ..).mp outcome.symm)
    · obtain ⟨p, unread⟩ := provided
      exact r.provide_stems p config.valueType value.confidential error unread name stems
    · exact opens secret sealed error opened stems

/-- At no level does resolving a key fail for a split that cannot be decided if all configs follow
the rules. What fails for a secret's key has failed one level below. -/
theorem resolveAt_stems (context : Context) (left : Nat) (r : Resolver) (key name : String)
    (wellFormed : r.catalog.WellFormed) (error : ConfigError)
    (failed : resolveAt context left r key = .error error) :
    ¬error.StemsFrom (.emptySplit name) := by
  induction left generalizing r key error with
  | zero =>
    refine r.resolveWith_stems _ context key name wellFormed ?_ error failed
    intro secret sealed cause opened stems
    obtain rfl := Except.error.inj opened
    cases stems
  | succ left inductionHypothesis =>
    refine r.resolveWith_stems _ context key name wellFormed ?_ error failed
    intro secret sealed cause opened stems
    obtain ⟨fault, rfl, below⟩ := r.openWith_error _ secret sealed cause opened
    cases stems with
    | wrapped other inner stems =>
      exact inductionHypothesis (r.skip (r.draws context key)) secret wellFormed inner
        (below other inner rfl) stems

/-- Decoding gives well-formed values only, whether it is a snapshot or a dump that is decoded, and
therefore no resolution over stores that hold decoded configs fails because a split has no arms,
neither for its own key nor, wrapped, for a key that a secret names. -/
theorem decoded_splits_decide :
    (∀ bs s, Snapshot.decode? bs = some s → s.WellFormed) ∧
    (∀ bs environment store, Store.ofDump bs environment = .ok store →
      store.catalog.WellFormed) ∧
    ∀ store : Store, store.Decoded → ∀ r : Resolver, r.catalog = store.catalog →
      ∀ context key error, r.resolve context key = .error error →
        ∀ name, ¬error.StemsFrom (.emptySplit name) := by
  refine ⟨Snapshot.decoded_well_formed, ?_, ?_⟩
  · intro bs environment store loaded
    exact Store.decoded_catalog store (.dump bs environment store loaded)
  · intro store decoded r same context key error failed name
    have wellFormed : r.catalog.WellFormed := same ▸ Store.decoded_catalog store decoded
    exact resolveAt_stems context r.depth r key name wellFormed error failed

/-- A snapshot with a split and with a secret whose key has no config. -/
def lockedOut : Snapshot where
  configs :=
    [.constant 1 "color" { payload := .split { arms := [⟨1, { payload := .text "red" }⟩] } },
      .constant 2 "token" { payload := .text "0a--0b--0c", decryptWith := some "master" }]

/-- Decoded from its bytes and from a dump of the same configs, it is well-formed, and the failure
to open the secret does not come from a split. -/
theorem locked_out_decides :
    (Snapshot.decode? lockedOut.encode = some lockedOut ∧ lockedOut.WellFormed) ∧
    (∃ store, Store.ofDump (Dump.encode lockedOut.configs) 1 = .ok store ∧
      store.catalog.WellFormed) ∧
    ∃ error, resolve { catalog := (Store.live (Live.replay [lockedOut])).catalog } ∅ "token" =
      .error error ∧ ∀ name, ¬error.StemsFrom (.emptySplit name) := by
  have wellFormed : lockedOut.WellFormed := by decide +kernel
  have short : lockedOut.encode.length < UInt64.size := by decide +kernel
  have nested : lockedOut.nesting ≤ Wire.depthLimit := by decide +kernel
  have decoded := lockedOut.decode_shallow wellFormed short nested
  have received := Store.decoded_live lockedOut wellFormed short nested
  obtain ⟨values, dumps, resolutions⟩ := decoded_splits_decide
  refine ⟨⟨decoded, values _ _ decoded⟩, ?_, ?_⟩
  · cases loaded : Store.ofDump (Dump.encode lockedOut.configs) 1 with
    | error error =>
      have loads : (Store.ofDump (Dump.encode lockedOut.configs) 1).isOk = true := by
        decide +kernel
      simp [loaded, Except.isOk, Except.toBool] at loads
    | ok store => exact ⟨store, rfl, dumps _ _ store loaded⟩
  · generalize resolver :
      ({ catalog := (Store.live (Live.replay [lockedOut])).catalog } : Resolver) = r
    cases outcome : r.resolve ∅ "token" with
    | error error =>
      exact ⟨error, rfl, resolutions _ received r (resolver ▸ rfl) ∅ "token" error outcome⟩
    | ok resolution =>
      have fails : (resolve { catalog := (Store.live (Live.replay [lockedOut])).catalog } ∅
          "token").isOk = false := by
        decide +kernel
      rw [resolver, outcome] at fails
      contradiction

end Resolver

end LiveConfig
