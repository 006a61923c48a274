import FieldGuard.Value

/-!
# The numeric view of a value, and truth

Integers of both widths and doubles are numbers; a double stands for each, an
integer rounded to the nearest one. A value is falsy when a filter takes it as no
constraint.
-/

namespace FieldGuard

namespace Value

/-- The value as a double, if it is a number. -/
def asNumber? : Value → Option Float
  | int32 n => some n.toInt64.toFloat
  | int64 n => some n.toFloat
  | double x => some x
  | _ => none

/-- Everything is truthy but null, undefined, false, the empty text, zero and NaN. -/
def isTruthy : Value → Bool
  | null | undefined => false
  | boolean b => b
  | string text => text != ""
  | int32 n => n.toInt64.toFloat != 0
  | int64 n => n.toFloat != 0
  | double x => x != 0 && !x.isNaN
  | _ => true

end Value

end FieldGuard
