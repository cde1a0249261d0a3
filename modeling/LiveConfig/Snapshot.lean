import LiveConfig.Config
import LiveConfig.Context

/-!
# Snapshots

A snapshot is a batch of configs as it is delivered: all of them at first, later those that changed.
-/

namespace LiveConfig

/-- Configs that arrive together, with the environment and the default context if they changed. -/
structure Snapshot where
  configs : List Config := []
  environment : Option Int64 := none
  defaultContext : Option Context := none

end LiveConfig
