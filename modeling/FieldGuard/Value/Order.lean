import FieldGuard.Value

/-!
# The partial order of values

Truth values, numbers, moments and texts are ordered among themselves; every
other pair is not ordered at all, and neither is NaN. Texts are ordered by code
point. Sorting needs an answer for every pair (`sortOrder`): a missing value
comes before a present one, and a pair without order counts as equal.
-/

namespace FieldGuard

namespace Value

/-- The order of two doubles; none if one of them is NaN. -/
def compareDouble (a b : Float) : Option Ordering :=
  if a < b then some .lt
  else if b < a then some .gt
  else if a == b then some .eq
  else none

/-- The order of two values, if they have one. -/
def compare? : Value → Value → Option Ordering
  | boolean a, boolean b => some (compare a b)
  | int32 a, int32 b => some (compare a b)
  | int32 a, int64 b => some (compare a.toInt64 b)
  | int64 a, int32 b => some (compare a b.toInt64)
  | int64 a, int64 b => some (compare a b)
  | double a, double b => compareDouble a b
  | int32 a, double b => compareDouble a.toInt64.toFloat b
  | int64 a, double b => compareDouble a.toFloat b
  | double a, int32 b => compareDouble a b.toInt64.toFloat
  | double a, int64 b => compareDouble a b.toFloat
  | dateTime a, dateTime b => some (compare a b)
  | string a, string b => some (compare a b)
  | _, _ => none

/-- The order of two values that may be missing, as sorting uses it. -/
def sortOrder : Option Value → Option Value → Ordering
  | some a, some b => (compare? a b).getD .eq
  | some _, none => .gt
  | none, some _ => .lt
  | none, none => .eq

end Value

end FieldGuard
