/-!
# The gate before lookups

A gate is closed until the first snapshot has been taken in. Once open it stays open.
-/

namespace LiveConfig

/-- Whether lookups may pass. -/
structure Gate where
  isOpen : Bool := false
deriving DecidableEq, Repr

namespace Gate

/-- An open gate. -/
def opened : Gate := ⟨true⟩

/-- Opens the gate, if it is not open yet. -/
def unlock (_ : Gate) : Gate := opened

/-- What waiting at the gate gives when nothing opens it meanwhile. -/
def wait (g : Gate) : Bool := g.isOpen

end Gate

end LiveConfig
