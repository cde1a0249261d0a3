import LiveConfig.Proofs.FlattenedDocuments

/-!
# Configs of log levels

In the store of a document, a config is of the kind of log levels if its name belongs to the levels
and it does not come from a mapping that has the key of a flag. Such a config serves a level to
every context. A mapping with that key gives a flag wherever it stands, below the path of all levels
as well, and whatever the key is set to: that the mapping is looked at before its path is what keeps
this from being a matter of names alone.
-/

namespace LiveConfig.Store

open Document

/-- A document that loads and has a config is a mapping. -/
theorem ofDocument_mapping (text : String) (store : Store)
    (loaded : ofDocument text = .ok store) (name : String) (c : Config)
    (held : store.config? name = some c) :
    ∃ entries, Yaml.parse? text = some (.mapping entries) := by
  obtain ⟨configs, read, rfl⟩ := (Outcome.map_ok_iff ..).mp loaded
  unfold parse at read
  split at read
  · next node parsed =>
    unfold Document.configs at read
    split at read
    · obtain rfl := Except.ok.inj read
      simp [ofConfigs_config?, lastOf?] at held
    · exact ⟨_, parsed⟩
    · contradiction
  · contradiction

/-- A leaf under the levels is a level. -/
theorem level_of_standsFor {name : String} {node : Yaml.Node} {payload : Payload}
    (standsFor : StandsFor name node payload) (under : UnderLevels name) :
    ∃ level, payload = .logLevel level := by
  cases standsFor with
  | level word level _ _ => exact ⟨level, rfl⟩
  | bool _ elsewhere | text _ elsewhere | int _ _ elsewhere | double _ elsewhere
  | texts _ _ elsewhere => exact absurd under elsewhere

/-- A config that a document has is of the kind of log levels exactly if its name belongs to the
levels and the last site of that name is no flag. It then serves one level, to every context. The
config of a flag is of the kind of flags, also under the levels. -/
theorem level_config_iff (text : String) (store : Store) (loaded : ofDocument text = .ok store)
    (name : String) (c : Config) (held : store.config? name = some c) :
    ∃ entries s, Yaml.parse? text = some (.mapping entries) ∧
      lastNamed? name (sites entries) = some s ∧
      (c.kind = .logLevel ↔ UnderLevels name ∧ ∀ inner, s.node ≠ .mapping inner) ∧
      (c.kind = .featureFlag ↔ ∃ inner, s.node = .mapping inner ∧ carriesFlag inner = true) ∧
      (c.kind = .logLevel → ∃ level : LogLevel, ∀ (r : Resolver) (context : Context),
        r.catalog.config? = store.catalog.config? →
          r.resolve context name = .ok
            { key := name, config := c,
              selection := some
                { row := 0, index := 0, rule := { value := { payload := .logLevel level } } },
              value := some { payload := .logLevel level } }) := by
  obtain ⟨entries, parsed⟩ := ofDocument_mapping text store loaded name c held
  obtain ⟨s, last, gives⟩ := (ofDocument_config? text entries parsed store loaded name c).mp held
  refine ⟨entries, s, parsed, last, ?_⟩
  obtain ⟨standing, -, -⟩ := (mem_sites_iff s entries).mp (lastNamed?_name last).1
  by_cases flag : ∃ inner, s.node = .mapping inner
  · obtain ⟨inner, mapping⟩ := flag
    rw [mapping] at gives
    obtain ⟨rule, rfl⟩ := flagConfig_single name inner c gives
    refine ⟨?_, ?_, ?_⟩
    · simp [Config.single, mapping]
    · simpa [Config.single, mapping] using standing.2 inner mapping
    · simp [Config.single]
  · have leaf : ∀ inner, s.node ≠ .mapping inner := fun inner mapping => flag ⟨inner, mapping⟩
    rw [siteConfig_leaf name s.node leaf, leafConfig_ok_iff] at gives
    obtain ⟨payload, standsFor, rfl⟩ := gives
    have kind : (Config.single 0 name (leafKind name) { value := { payload } }).kind = .logLevel ↔
        UnderLevels name := by
      rw [← isLevelPath_iff]
      simp [Config.single, leafKind]
    refine ⟨?_, ?_, ?_⟩
    · rw [kind, and_iff_left leaf]
    · simp only [leaf, false_and, exists_false, iff_false]
      simp only [Config.single, leafKind]
      split <;> simp
    · rw [kind]
      intro under
      obtain ⟨level, rfl⟩ := level_of_standsFor standsFor under
      exact ⟨level, resolve_leaf store name s.node _ standsFor held⟩

/-- A document with levels, of which two stand in a mapping that has the key of a flag. -/
def loggers : String :=
  "log-level:\n  _: error\n  app:\n    feature_flag: info\n    value: warn\n"

/-- The entries of the document. -/
def loggerEntries : Entries :=
  [(.text "log-level", .mapping [(.text "_", .text "error"),
    (.text "app", .mapping [(.text "feature_flag", .text "info"), (.text "value", .text "warn")])])]

/-- The configs of the document: one level and one flag. -/
def loggerConfigs : List Config :=
  [.single 0 "log-level" .logLevel { value := { payload := .logLevel .error } },
   .single 0 "log-level.app" .featureFlag { value := { payload := .text "warn" } }]

/-- The document loads. -/
theorem loggers_load : ofDocument loggers = .ok (ofConfigs loggerConfigs) := by
  rw [ofDocument_eq loggers loggerEntries (by decide +kernel)]
  rfl

/-- The level of all loggers is a level to every context. -/
theorem loggers_serve_level : ∃ store c, ofDocument loggers = .ok store ∧
    store.config? "log-level" = some c ∧ c.kind = .logLevel ∧
    ∃ level : LogLevel, ∀ (r : Resolver) (context : Context),
      r.catalog.config? = store.catalog.config? →
        (r.resolve context "log-level").map (·.value) =
          .ok (some { payload := .logLevel level }) := by
  have held : (ofConfigs loggerConfigs).config? "log-level" =
      some (.single 0 "log-level" .logLevel { value := { payload := .logLevel .error } }) :=
    (ofConfigs_config? ..).trans rfl
  obtain ⟨entries, s, -, -, -, -, serves⟩ :=
    level_config_iff loggers (ofConfigs loggerConfigs) loggers_load "log-level" _ held
  obtain ⟨level, resolves⟩ := serves rfl
  refine ⟨_, _, loggers_load, held, rfl, level, fun r context same => ?_⟩
  rw [resolves r context same]
  rfl

/-- A name that belongs to the levels has the config of a flag, though the key of a flag names a
level there, as does the value. -/
theorem loggers_hide_levels : ∃ store c, ofDocument loggers = .ok store ∧
    UnderLevels "log-level.app" ∧ store.config? "log-level.app" = some c ∧
    c.kind = .featureFlag ∧ store.config? "log-level.app.value" = none := by
  have held : (ofConfigs loggerConfigs).config? "log-level.app" =
      some (.single 0 "log-level.app" .featureFlag { value := { payload := .text "warn" } }) :=
    (ofConfigs_config? ..).trans rfl
  have absent : (ofConfigs loggerConfigs).config? "log-level.app.value" = none :=
    (ofConfigs_config? ..).trans rfl
  exact ⟨_, _, loggers_load, .inr ⟨"app", by decide +kernel⟩, held, rfl, absent⟩

end LiveConfig.Store
