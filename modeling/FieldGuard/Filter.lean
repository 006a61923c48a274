import FieldGuard.Pattern
import FieldGuard.Value

/-!
# Filters

A `Filter` tests a record, a `Condition` the value of one field, and a `Clause` is one part of a
condition. Filters are written as documents; what is malformed in them becomes a clause or a
filter that nothing matches, with the name as it was written.
-/

namespace FieldGuard

/-- What is wrong with a clause. -/
inductive ClauseFault where
  | notAList
  | notAString
  | notAPatternText
  /-- The pattern is malformed or too large. -/
  | badPattern
  | notADivisor
  | notASize
  | unknown
deriving DecidableEq, Repr

/-- The text of a fault. -/
def ClauseFault.message : ClauseFault → String
  | notAList => "expects a list"
  | notAString => "expects a string"
  | notAPatternText => "expects a pattern string"
  | badPattern => "regex"
  | notADivisor => "expects a non-zero divisor"
  | notASize => "expects a non-negative integer"
  | unknown => "is not a known clause"

mutual

/-- A test of a record. -/
inductive Filter where
  /-- Every field condition holds; without any, every record matches. -/
  | fields (conditions : List (String × Condition))
  | and (filters : List Filter)
  | or (filters : List Filter)
  | nor (filters : List Filter)
  | not (filter : Filter)
  /-- An unknown or malformed combinator, which nothing matches. -/
  | invalid (token : String)

/-- A test of the value of a field, which may be missing. -/
inductive Condition where
  /-- Equality. -/
  | literal (expected : Value)
  /-- A document without operators: a filter for documents, and for any other value
  equality. -/
  | document (expected : List (String × Value)) (filter : Filter)
  /-- Every clause holds. -/
  | clauses (clauses : List Clause)

/-- One part of a condition. -/
inductive Clause where
  /-- The value is, or is not, there and neither null nor undefined. -/
  | present (expected : Bool)
  | eq (expected : Value)
  | ne (expected : Value)
  | oneOf (candidates : List Value)
  | noneOf (candidates : List Value)
  | gt (bound : Value)
  | gte (bound : Value)
  | lt (bound : Value)
  | lte (bound : Value)
  /-- The value leaves the remainder on division. -/
  | mod (divisor remainder : Float)
  | contains (part : String)
  | startsWith (part : String)
  | endsWith (part : String)
  | regex (pattern : Pattern)
  /-- Every item of a list passes. -/
  | all (condition : Condition)
  /-- Some item of a list passes. -/
  | elemMatch (condition : Condition)
  /-- A list has this many items. -/
  | size (count : Nat)
  | and (conditions : List Condition)
  | or (conditions : List Condition)
  | nor (conditions : List Condition)
  | not (condition : Condition)
  /-- An unknown or malformed clause, which nothing matches. -/
  | invalid (token : String) (fault : ClauseFault)

end

namespace Filter

/-- The filter that every record matches. -/
def everything : Filter :=
  .fields []

end Filter

end FieldGuard
