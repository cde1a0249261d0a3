import LiveConfig.Proofs.DecodedSplits

/-!
# Settled values

What a resolution serves is never a provided value: where one was decided, the text of its variable
has taken its place, coerced to the value type of the config.

A split is decided once, and what is decided is not decided again. An arm that is itself a split is
therefore served as that split, and reading what is served as a native value fails. Decoding does
not exclude such splits. Nothing else is served undecided.
-/

namespace LiveConfig

/-- Coercing a text gives neither a provided value nor a split. -/
theorem coerce?_settled (text : String) (target : ValueType) (payload : Payload)
    (coerced : coerce? text target = some payload) :
    (∀ p, payload ≠ .provided p) ∧ ∀ s, payload ≠ .split s := by
  cases target with
  | unset | text | duration | json =>
    obtain rfl := Option.some.inj coerced
    simp
  | int | double =>
    obtain ⟨n, -, rfl⟩ := Option.map_eq_some_iff.mp coerced
    simp
  | bool =>
    simp only [coerce?] at coerced
    split at coerced
    · obtain rfl := Option.some.inj coerced
      simp
    · split at coerced
      · obtain rfl := Option.some.inj coerced
        simp
      · cases coerced
  | bytes | logLevel | texts | range => simp [coerce?] at coerced

namespace Resolver

/-- A value that is served is never provided: it is the coerced text of a variable where a provided
value was decided. It is a split exactly if the decided value is, and that only where the selected
value is a split with that very split as an arm. -/
theorem served_settled (r : Resolver) (context : Context) (key : String) (resolution : Resolution)
    (v : Value) (resolved : r.resolve context key = .ok resolution)
    (served : resolution.value = some v) :
    (∀ p, v.payload ≠ .provided p) ∧
      ∃ selected decided, r.selected? context key = some selected ∧
        r.decided? context key = some decided ∧
        (∀ p, decided.payload = .provided p → p.origin = .environment ∧
          ∃ text, r.vars[p.name]? = some text ∧
            coerce? text resolution.config.valueType = some v.payload) ∧
        (∀ s, v.payload = .split s ↔ decided.payload = .split s) ∧
        ∀ s, decided.payload = .split s →
          ∃ outer, selected.payload = .split outer ∧ ∃ arm ∈ outer.arms, arm.value = decided := by
  rw [resolve, resolveAt_eq] at resolved
  obtain ⟨selected, arm, decided, serves, chosen, done⟩ :=
    r.resolveWith_served context key _ resolution v resolved served
  have decides : r.decided? context key = some decided :=
    (r.decided?_some_iff context key decided).mpr ⟨selected, arm, serves, chosen⟩
  have nested := r.choose_nested context key selected decided arm chosen
  obtain ⟨p, provided, origin, text, known, coerced⟩ | ⟨sealed, text, secret, opened⟩ |
    ⟨own, same⟩ := r.settle_ok _ resolution.config.valueType selected decided v done
  -- A provided value has been read: what it was coerced to is neither provided nor a split.
  · obtain ⟨unprovided, whole⟩ := coerce?_settled text _ _ coerced
    refine ⟨unprovided, selected, decided, serves, decides, ?_, ?_, nested⟩
    · intro q also
      obtain rfl := Payload.provided.inj (provided.symm.trans also)
      exact ⟨origin, text, known, coerced⟩
    · intro s
      simp [whole s, provided]
  -- A secret has been opened: it was a text and is one.
  · refine ⟨by simp [opened], selected, decided, serves, decides, by simp [secret], ?_, nested⟩
    simp [opened, secret]
  -- Whatever else is decided is served as it is.
  · refine ⟨fun p => same ▸ own p, selected, decided, serves, decides, ?_, ?_, nested⟩
    · exact fun p provided => absurd provided (own p)
    · intro s
      rw [same]

/-- A config whose value is provided. -/
def port : Config :=
  { Config.constant 1 "port" { payload := .provided ⟨.environment, "PORT"⟩ } with
    valueType := .int }

/-- A resolver that knows the variable. -/
def listening : Resolver where
  catalog := (Store.ofConfigs [port]).catalog
  vars := .ofList [("PORT", " 8080 ")]

/-- The variable's text is served as a number. -/
theorem listening_serves_number : ∃ resolution v, listening.resolve ∅ "port" = .ok resolution ∧
    resolution.value = some v ∧ v.payload = .int 8080 ∧ ∀ p, v.payload ≠ .provided p := by
  obtain ⟨resolution, resolved, served⟩ : ∃ resolution,
      listening.resolve ∅ "port" = .ok resolution ∧
        resolution.value = some { payload := .int 8080 } :=
    ⟨_, rfl, rfl⟩
  obtain ⟨own, -⟩ := served_settled listening ∅ "port" resolution _ resolved served
  exact ⟨resolution, _, resolved, served, rfl, own⟩

/-- A snapshot with a split whose only arm is a split. -/
def doubled : Snapshot where
  configs := [.constant 1 "nested" { payload := .split { arms :=
    [⟨1, { payload := .split { arms := [⟨1, { payload := .text "inner" }⟩] } }⟩] } }]

/-- The inner split is served, though the snapshot is well-formed and was decoded from its bytes. -/
theorem nested_split_served : (Store.live (Live.replay [doubled])).Decoded ∧
    ∃ resolution v s,
      resolve { catalog := (Store.live (Live.replay [doubled])).catalog } ∅ "nested" =
        .ok resolution ∧ resolution.value = some v ∧ v.payload = .split s := by
  have received := Store.decoded_live doubled (by decide +kernel) (by decide +kernel)
    (by decide +kernel)
  generalize resolver :
    ({ catalog := (Store.live (Live.replay [doubled])).catalog } : Resolver) = r
  have held : r.catalog.config? "nested" = doubled.configs.head? := resolver ▸ rfl
  have chosen (v : Value) : r.choose ∅ "nested" { payload := .split { arms := [⟨1, v⟩] } } =
      .ok (some 0, v) := by
    simp [choose, Value.split?, Split.pick?, Split.weights, Split.pickIndex_singleton]
  refine ⟨received, ?_⟩
  rw [resolve, resolveAt_eq, resolveWith, held]
  simp only [doubled, List.head?_cons, Catalog.evaluate_constant, chosen]
  exact ⟨_, _, _, rfl, rfl, rfl⟩

end Resolver

end LiveConfig
