import Std.Data.ExtTreeMap
import LiveConfig.Text.Blank
import LiveConfig.Value.Text

/-!
# Contexts

What is known about the one who asks stands in named groups of properties. A property is addressed
by a dotted name: `user.email` is the property `email` of the group `user`, and a name without a
dot belongs to the group without a name.

Overlaying one context on another replaces whole groups, never single properties.
-/

namespace LiveConfig

/-- Where criteria read properties. -/
abbrev Lookup := String → Option Value

/-- The properties of one group. -/
abbrev Properties := Std.ExtTreeMap String Value

/-- Groups of properties by name. -/
abbrev Context := Std.ExtTreeMap String Properties

/-- Splits a property name at its first dot into a group and a property of it. -/
def splitProperty (name : String) : String × String :=
  match Text.splitFirst '.' name.toList with
  | none => ("", name)
  | some (group, property) => (String.ofList group, String.ofList property)

/-- The properties in a list of pairs, of which a later one replaces an earlier one. -/
def Properties.ofPairs (pairs : List (String × Value)) : Properties :=
  .ofList pairs

namespace Context

/-- The context with one group set or replaced. -/
def setGroup (c : Context) (name : String) (group : Properties) : Context :=
  c.insert name group

/-- The context of a list of groups, of which a later one replaces an earlier one. -/
def ofGroups (groups : List (String × Properties)) : Context :=
  .ofList groups

/-- The value of a dotted property name. -/
def property? (context : Context) : Lookup := fun name =>
  let (group, property) := splitProperty name
  context[group]? >>= fun properties => properties[property]?

/-- Lays a context over another: its groups replace those of the same name. -/
def overlay (base top : Context) : Context :=
  base ∪ top

/-- Lays contexts over one another; the last one is on top. -/
def layered (contexts : List Context) : Context :=
  contexts.foldl overlay ∅

/-- The identity of a context: the property `key` of each group that has it, in the order of the
groups' names. -/
def identity (c : Context) : String :=
  "|".intercalate <| c.toList.filterMap fun (name, group) =>
    group["key"]?.map fun key => name ++ ":" ++ key.rawText

end Context

/-- Asks several sources in turn; the first answer counts. -/
def Lookup.first (sources : List Lookup) : Lookup := fun name =>
  sources.findSome? (· name)

end LiveConfig
