import FieldGuard.Value

/-!
# Two equalities of values

* `Value.identical` keeps the kinds of numbers apart: the integer 1 of one width,
  of the other width, and the double 1 are three values.
* `Value.same` is the equality of filters: integers are compared as numbers, an
  integer and a double by rounding the integer to a double, and null and
  undefined are one value. Kinds that filters know nothing about are compared by
  `identical`.

Both compare documents without regard to the order of their fields.
-/

namespace FieldGuard

namespace Value

mutual

/-- Equality that keeps every kind of value apart. -/
def identical : Value → Value → Bool
  | null, null => true
  | undefined, undefined => true
  | boolean a, boolean b => a == b
  | int32 a, int32 b => a == b
  | int64 a, int64 b => a == b
  | double a, double b => a == b
  | string a, string b => a == b
  | dateTime a, dateTime b => a == b
  | array xs, array ys => identicalItems xs ys
  | document d, document e => d.length == e.length && identicalFields d e
  | objectId a, objectId b => a == b
  | binary s a, binary t b => s == t && a == b
  | timestamp t i, timestamp u j => t == u && i == j
  | regularExpression p o, regularExpression q r => p == q && o == r
  | decimal128 a, decimal128 b => a == b
  | symbol a, symbol b => a == b
  | code a, code b => a == b
  | codeWithScope a d, codeWithScope b e => a == b && (d.length == e.length && identicalFields d e)
  | minKey, minKey => true
  | maxKey, maxKey => true
  | _, _ => false

/-- Item by item equality that keeps every kind of value apart. -/
def identicalItems : List Value → List Value → Bool
  | [], [] => true
  | x :: xs, y :: ys => identical x y && identicalItems xs ys
  | _, _ => false

/-- Every field of the first list has an identical one in the second. -/
def identicalFields : List (String × Value) → List (String × Value) → Bool
  | [], _ => true
  | (key, v) :: rest, others =>
    (match Dict.get? others key with
      | some w => identical v w
      | none => false) && identicalFields rest others

end

mutual

/-- The equality of filters. -/
def same : Value → Value → Bool
  | null, w => w.isNothing
  | undefined, w => w.isNothing
  | int32 a, int32 b => a == b
  | int32 a, int64 b => a.toInt64 == b
  | int32 a, double b => a.toInt64.toFloat == b
  | int64 a, int32 b => a == b.toInt64
  | int64 a, int64 b => a == b
  | int64 a, double b => a.toFloat == b
  | double a, int32 b => a == b.toInt64.toFloat
  | double a, int64 b => a == b.toFloat
  | double a, double b => a == b
  | array xs, array ys => sameItems xs ys
  | document d, document e => d.length == e.length && sameFields d e
  | v, w => identical v w

/-- Item by item equality of filters. -/
def sameItems : List Value → List Value → Bool
  | [], [] => true
  | x :: xs, y :: ys => same x y && sameItems xs ys
  | _, _ => false

/-- Every field of the first list has the same value in the second. -/
def sameFields : List (String × Value) → List (String × Value) → Bool
  | [], _ => true
  | (key, v) :: rest, others =>
    (match Dict.get? others key with
      | some w => same v w
      | none => false) && sameFields rest others

end

/-- Equality with an expected value, where a missing value counts as null. -/
def sameOrMissing (value : Option Value) (expected : Value) : Bool :=
  match value with
  | some v => same v expected
  | none => expected.isNothing

end Value

end FieldGuard
