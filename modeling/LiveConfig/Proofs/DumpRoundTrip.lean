import LiveConfig.Proofs.SnapshotRoundTrip

/-!
# Dumps are read back

In a dump each config stands in a wrapper, which may mark it as deleted and may say when it was
made. What is read of a dump is the list of the configs that are not marked, in their order and with
repetitions. A config that is marked need not even be well-formed.

A wrapper is a message of its own, so a config nests one level deeper in a dump than it does in a
snapshot. As there, a dump that nests deeper than the reader goes is not read at all.
-/

namespace LiveConfig

/-- A config as it stands in a dump. A wrapper may be empty. -/
structure Wrapper where
  config : Option Config
  deleted : Bool := false
  /-- When the config was made. It is written, and read past. -/
  created : Int64 := 0

/-- The levels of messages that nest in the message of a wrapper. -/
def Wrapper.nesting (w : Wrapper) : Nat :=
  w.config.elim 0 fun c => c.nesting + 1

namespace Wire

/-- The fields of a wrapper. -/
def wrapperFields (w : Wrapper) : List Field :=
  optional (fun c => .ofMessage 1 (configFields c)) w.config ++
    unlessDefault false (.ofBool 2) w.deleted ++ unlessDefault 0 (.ofInt64 3) w.created

/-- The message of a wrapper. -/
def wrapperMessage (w : Wrapper) : DumpEntryMessage where
  config := w.config.map configMessage
  deleted := w.deleted

end Wire

namespace Dump

/-- The configs of a dump that are not marked as deleted. -/
def kept (wrappers : List Wrapper) : List Config :=
  (wrappers.filter fun w => !w.deleted).filterMap Wrapper.config

/-- The levels of messages that nest in the message of a dump. -/
def nesting (wrappers : List Wrapper) : Nat :=
  Wire.deepest (fun w => w.nesting + 1) wrappers

/-- The bytes of a dump of wrappers. -/
def encodeWrapped (wrappers : List Wrapper) : Bytes :=
  Wire.writeAll (wrappers.map fun w => .ofMessage 1 (Wire.wrapperFields w))

/-- The wrappers of configs of which none is marked as deleted. -/
def wrap (configs : List Config) : List Wrapper :=
  configs.map fun c => { config := some c }

/-- A dump of configs is one of unmarked wrappers. -/
theorem encode_eq (configs : List Config) : encode configs = encodeWrapped (wrap configs) := by
  rw [encode, encodeWrapped, wrap, List.map_map]
  rfl

/-- Of unmarked configs all are kept. -/
theorem kept_wrap (configs : List Config) : kept (wrap configs) = configs := by
  have unmarked : (wrap configs).filter (fun w => !w.deleted) = wrap configs := by
    rw [List.filter_eq_self, wrap, List.forall_mem_map]
    intro c _
    rfl
  rw [kept, unmarked, wrap, List.filterMap_map]
  exact List.filterMap_some

end Dump

namespace Wire

/-- A wrapper is read back from its fields. -/
theorem wrapper_merges (w : Wrapper) : Merges DumpEntryMessage.merge? {} (wrapperFields w)
    w.nesting (wrapperMessage w) := by
  have config (c : Config) : Merges DumpEntryMessage.merge? {} [.ofMessage 1 (configFields c)]
      (c.nesting + 1) { config := some (configMessage c) } :=
    .message (fun m => DumpEntryMessage.mk (some m) false) (by decide) (config_merges c)
      (by simp [noneForced]) fun _ => rfl
  have configs := Merges.optional (fun c => DumpEntryMessage.mk (c.map configMessage) false)
    w.config rfl config
  have deleted : Merges DumpEntryMessage.merge? ⟨w.config.map configMessage, false⟩
      (unlessDefault false (.ofBool 2) w.deleted) 0 (wrapperMessage w) :=
    .unlessDefault (DumpEntryMessage.mk (w.config.map configMessage))
      (Field.ofBool_holds 2 (by decide) _) fun _ => rfl
  have created : Merges DumpEntryMessage.merge? (wrapperMessage w)
      (unlessDefault 0 (.ofInt64 3) w.created) 0 (wrapperMessage w) :=
    .unlessDefault (fun _ => wrapperMessage w) (Field.ofInt64_holds 3 (by decide) _) fun _ => rfl
  exact ((configs.append deleted).append created).leveled (by simp [Wrapper.nesting])

/-- A dump is read back from the fields of its wrappers. -/
theorem dump_merges (wrappers : List Wrapper) : Merges mergeDump? []
    (wrappers.map fun w => .ofMessage 1 (wrapperFields w)) (Dump.nesting wrappers)
    (wrappers.map wrapperMessage) := by
  have each (held : List DumpEntryMessage) (w : Wrapper) (_ : w ∈ wrappers) :
      Merges mergeDump? held [.ofMessage 1 (wrapperFields w)] (w.nesting + 1)
        (held ++ [wrapperMessage w]) :=
    .message (fun m => held ++ [m]) (by decide) (wrapper_merges w) (by simp [noneForced])
      fun _ => rfl
  exact Merges.repeated (fun held more => held ++ more) wrappers (fun held => held.append_nil)
    (fun held m more => List.append_assoc held [m] more) each []

/-- The messages of the configs in unmarked wrappers are those of the configs that are kept. -/
theorem kept_messages (wrappers : List Wrapper) :
    ((wrappers.map wrapperMessage).filter fun e => !e.deleted).filterMap DumpEntryMessage.config =
      (Dump.kept wrappers).map configMessage := by
  rw [List.filter_map, List.filterMap_map, Dump.kept, List.map_filterMap]
  rfl

end Wire

namespace Dump

/-- A dump is read back from its bytes if the reader has levels enough for it: the configs that are
not marked as deleted, if these are well-formed. Nothing is read otherwise. -/
theorem decode_encodeWrapped (wrappers : List Wrapper)
    (wellFormed : ∀ c ∈ kept wrappers, c.WellFormed)
    (short : (encodeWrapped wrappers).length < UInt64.size) :
    decode? (encodeWrapped wrappers) =
      Wire.within (nesting wrappers) Wire.depthLimit (kept wrappers) := by
  have read := (Wire.dump_merges wrappers).decode?_writeAll short
  have sound := Wire.soundConfigs_configMessage (kept wrappers) wellFormed
  rw [decode?, encodeWrapped, read]
  by_cases enough : nesting wrappers ≤ Wire.depthLimit
  · simp [Wire.within, enough, Wire.kept_messages, sound]
  · simp [Wire.within, enough]

/-- What a dump can carry, a snapshot of the same configs can carry, too: there, each config nests
one level less. -/
theorem snapshot_nesting_le (configs : List Config) (environment : Option Int64)
    (some : configs ≠ []) :
    Snapshot.nesting { configs, environment } ≤ nesting (wrap configs) := by
  have levels : nesting (wrap configs) = Wire.deepest (fun c => c.nesting + 1) configs + 1 := by
    rw [← Wire.deepest_succ _ configs some, nesting, wrap, Wire.deepest, List.foldr_map]
    rfl
  have pointer : (environment.elim 0 fun _ => 1) ≤ 1 := by
    cases environment <;> simp
  rw [levels, Snapshot.nesting]
  simp only [Option.elim_none]
  omega

end Dump

end LiveConfig
