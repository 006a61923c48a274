import FieldGuard.Number.Binary

/-!
# The exact remainder of two doubles

`remainder x y` is `x` less the multiple of `y` nearest to it on the side of zero.
It has the sign of `x`, is smaller than `y` in size, and is a double without any
rounding, because it is a multiple of the smaller unit of the two.
-/

namespace FieldGuard

namespace Number

/-- What is left of `x` after taking away whole multiples of `y` towards zero. An
infinite `y` takes nothing away; an infinite `x`, a zero `y` and NaN have no
remainder. -/
def remainder (x y : Float) : Float :=
  match Binary.ofFloat? x, Binary.ofFloat? y with
  | some a, some b =>
    if b.significand = 0 then 0 / 0
    else
      let unit := min a.exponent b.exponent
      let whole := a.significand <<< (a.exponent - unit).toNat
      let divisor := b.significand <<< (b.exponent - unit).toNat
      Binary.toFloat ⟨a.negative, whole % divisor, unit⟩
  | some _, none => if y.isNaN then y else x
  | none, _ => 0 / 0

end Number

end FieldGuard
