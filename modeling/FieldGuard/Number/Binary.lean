/-!
# Doubles as whole numbers times powers of two

A finite double is a sign, a whole number below 2^53 and a power of two. Exact
arithmetic on doubles is arithmetic on these parts.
-/

namespace FieldGuard

namespace Number

/-- A finite double: `(-1)^negative * significand * 2^exponent`. -/
structure Binary where
  /-- Whether the sign bit is set. -/
  negative : Bool
  /-- The whole number, below 2^53. -/
  significand : Nat
  /-- The power of two. -/
  exponent : Int
deriving Repr, DecidableEq

/-- The parts of a double; none for infinities and NaN. -/
def Binary.ofFloat? (x : Float) : Option Binary :=
  let bits := x.toBits.toNat
  let negative : Bool := bits ≥ 1 <<< 63
  let biased : Nat := (bits >>> 52) % (1 <<< 11)
  let fraction := bits % (1 <<< 52)
  if biased = 2047 then none
  else if biased = 0 then some ⟨negative, fraction, -1074⟩
  else some ⟨negative, fraction + 1 <<< 52, (biased : Int) - 1075⟩

/-- The double with the given parts, for a significand below 2^53. -/
def Binary.toFloat (b : Binary) : Float :=
  let magnitude := (Float.ofNat b.significand).scaleB b.exponent
  if b.negative then -magnitude else magnitude

end Number

end FieldGuard
