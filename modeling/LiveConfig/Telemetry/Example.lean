import LiveConfig.Context
import LiveConfig.Wire.ValueMessage

/-!
# Example contexts

One context is kept for each identity that occurs. Contexts without an identity are not kept. A
report holds contexts in their written form, in which each property is the bytes of its value. A
receiver reads the values back as far as they follow the rules of values.
-/

namespace LiveConfig.Telemetry

/-- A context in its written form: the bytes of the properties of each group. -/
abbrev WrittenContext := Std.ExtTreeMap String (Std.ExtTreeMap String Bytes)

namespace WrittenContext

/-- The written form of a context. -/
def of (c : Context) : WrittenContext :=
  c.map fun _ properties => properties.map fun _ v => v.encode

/-- The properties that are read of a group: those whose values follow the rules. -/
def readGroup (values : Std.ExtTreeMap String Bytes) : Properties :=
  values.filterMap fun _ bs => Value.decode? bs >>= Except.toOption

/-- The context that a receiver reads. -/
def read (written : WrittenContext) : Context :=
  written.map fun _ values => readGroup values

end WrittenContext

/-- The examples kept, in the order of their arrival. -/
abbrev Examples := List Context

namespace Examples

/-- Keeps a context if it is the first one of its identity. -/
def record (examples : Examples) (c : Context) : Examples :=
  if c.identity = "" || examples.any (·.identity == c.identity) then examples
  else examples ++ [c]

/-- The report of all examples; none if there is none. -/
def report? (examples : Examples) : Option (List WrittenContext) :=
  if examples.isEmpty then none else some (examples.map WrittenContext.of)

end Examples

end LiveConfig.Telemetry
