/-!
# Doubles

A double is a float of double precision that is kept by its bits. Numbers and infinities have one
pattern of bits each. What is no number has many, of either sign, and `Float` is the same for all of
them. So values are stored, compared by bytes and sent as doubles, and computed with as floats.
-/

namespace LiveConfig

/-- The 64 bits of a float: its sign, its exponent and its mantissa. -/
structure Double where
  bits : UInt64
deriving DecidableEq, Repr

namespace Double

/-- The float with these bits. -/
def toFloat (x : Double) : Float :=
  Float.ofBits x.bits

/-- The bits of a float; of what is no number, those that computing it gives. -/
def ofFloat (x : Float) : Double :=
  ⟨x.toBits⟩

/-- The other sign, which has a bit of its own even in what is no number. -/
def negate (x : Double) : Double :=
  ⟨x.bits ^^^ 0x8000000000000000⟩

end Double

end LiveConfig
