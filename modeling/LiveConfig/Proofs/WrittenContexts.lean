import LiveConfig.Proofs.DecodedDepth
import LiveConfig.Proofs.KeyedTables
import LiveConfig.Telemetry.Example

/-!
# Contexts as they are written

The written form of a context has its groups and properties, and for each property the bytes of the
value. So it tells contexts apart, and it hides nothing: a confidential value is written like any
other. A receiver gets back those properties that can be read at all, and the context itself if all
of them can.
-/

namespace LiveConfig

/-- The value of a property of a group. -/
def Context.valueAt? (context : Context) (group property : String) : Option Value :=
  context[group]? >>= fun properties => properties[property]?

/-- Contexts with the same groups are the same if they have the same values. -/
theorem Context.ext_valueAt? (context other : Context)
    (groups : ∀ group, group ∈ context ↔ group ∈ other)
    (values : ∀ group property, context.valueAt? group property = other.valueAt? group property) :
    context = other := by
  apply Std.ExtTreeMap.ext_getElem?
  intro group
  by_cases there : group ∈ context
  · rw [Std.ExtTreeMap.getElem?_eq_some_getElem there,
      Std.ExtTreeMap.getElem?_eq_some_getElem ((groups group).mp there), Option.some.injEq]
    apply Std.ExtTreeMap.ext_getElem?
    intro property
    simpa [valueAt?, Std.ExtTreeMap.getElem?_eq_some_getElem there,
      Std.ExtTreeMap.getElem?_eq_some_getElem ((groups group).mp there)] using
      values group property
  · rw [Std.ExtTreeMap.getElem?_eq_none there,
      Std.ExtTreeMap.getElem?_eq_none (mt (groups group).mpr there)]

/-- A context all of whose properties are read from a report as they are. -/
def Context.Readable (c : Context) : Prop :=
  ∀ (group property : String) (v : Value), c.valueAt? group property = some v → v.Readable

namespace Telemetry.WrittenContext

/-- The bytes of a property of a group. -/
def bytesAt? (written : WrittenContext) (group property : String) : Option Bytes :=
  written[group]? >>= fun values => values[property]?

/-- Contexts are told apart by their written forms. -/
theorem of_injective : Function.Injective of :=
  KeyedTable.map_injective (KeyedTable.map_injective Value.encode_injective)

/-- The bytes of a property are those of its value, whether or not it is confidential. -/
theorem bytesAt?_of (context : Context) (group property : String) :
    (of context).bytesAt? group property = (context.valueAt? group property).map Value.encode := by
  rw [bytesAt?, of, Std.ExtTreeMap.getElem?_map, Context.valueAt?]
  cases context[group]? with
  | none => rfl
  | some properties => exact Std.ExtTreeMap.getElem?_map

/-- A receiver reads of a property what its bytes say. -/
theorem valueAt?_read (written : WrittenContext) (group property : String) :
    (read written).valueAt? group property = written.bytesAt? group property >>= fun bs =>
      Value.decode? bs >>= Except.toOption := by
  rw [Context.valueAt?, read, Std.ExtTreeMap.getElem?_map, bytesAt?]
  cases written[group]? with
  | none => rfl
  | some values =>
    simp only [Option.map_some, Option.bind_eq_bind, Option.bind_some, readGroup,
      Std.ExtTreeMap.getElem?_filterMap]
    cases values[property]? <;> rfl

/-- A readable property is read as it is. -/
theorem valueAt?_read_of (context : Context) (group property : String) (v : Value)
    (held : context.valueAt? group property = some v) (readable : v.Readable) :
    (read (of context)).valueAt? group property = some v := by
  rw [valueAt?_read, bytesAt?_of, held, Option.map_some, Option.bind_eq_bind, Option.bind_some,
    v.decode?_readable readable]
  rfl

/-- A readable context is read as it is. -/
theorem read_of (context : Context) (readable : context.Readable) :
    read (of context) = context := by
  apply Context.ext_valueAt?
  · intro group
    rw [read, of, Std.ExtTreeMap.mem_map, Std.ExtTreeMap.mem_map]
  · intro group property
    cases held : context.valueAt? group property with
    | none => rw [valueAt?_read, bytesAt?_of, held]; rfl
    | some v =>
      exact valueAt?_read_of context group property v held (readable group property v held)

end Telemetry.WrittenContext

end LiveConfig
