import LiveConfig.Context

/-!
# Context shapes

The shape of a context is which properties its groups have, and the type of each. The first type of
a property that is seen stays.
-/

namespace LiveConfig.Telemetry

/-- The number of a value's type in a shape. All types without a number of their own count as
text. -/
def shapeCode (v : Value) : Nat :=
  match v.payload with
  | .int _ => 1
  | .text _ => 2
  | .double _ => 4
  | .bool _ => 5
  | .texts _ => 10
  | _ => 2

/-- The types of the properties of each group. -/
abbrev Shapes := Std.ExtTreeMap String (Std.ExtTreeMap String Nat)

namespace Shapes

/-- Adds the types of a group's properties; known ones stay. -/
def recordGroup (shapes : Shapes) (name : String) (properties : Properties) : Shapes :=
  shapes.alter name fun known =>
    some ((properties.map fun _ v => shapeCode v) ∪ known.getD ∅)

/-- Adds the shape of a context. -/
def record (shapes : Shapes) (c : Context) : Shapes :=
  c.toList.foldl (fun shapes (name, properties) => shapes.recordGroup name properties) shapes

/-- The report of all shapes; none if there is none. -/
def report? (shapes : Shapes) : Option Shapes :=
  if shapes.isEmpty then none else some shapes

end Shapes

end LiveConfig.Telemetry
