import Std.Data.ExtTreeMap
import LiveConfig.Config

/-!
# Tables of configs
-/

namespace LiveConfig

/-- Configs by key. -/
abbrev Table := Std.ExtTreeMap String Config

/-- The table of a list of configs; of two with one key the later counts. -/
def Table.ofConfigs (configs : List Config) : Table :=
  .ofList (configs.map fun c => (c.key, c))

end LiveConfig
