import FieldGuard.Filter
import FieldGuard.Value.Number

/-!
# Filters read from documents

A field name that starts with a dollar sign is an operator: at the level of a record it combines
filters, in a condition it makes a clause. Operators are recognized in either case of their
letters. A field whose value is falsy is no constraint.
-/

namespace FieldGuard

namespace Filter

/-- Whether a field name is an operator. -/
def isOperator (key : String) : Bool :=
  key.toList.head? == some '$'

/-- The letters of an operator in lower case. -/
def operatorName (key : String) : String :=
  String.ofList (key.toList.map Char.toLower)

/-- Whether a document uses operators. -/
def hasOperators (fields : List (String × Value)) : Bool :=
  fields.any fun field => isOperator field.1

/-- The filter of a document with the given field conditions and combinators. -/
def assemble (conditions : List (String × Condition)) (combinators : List Filter) : Filter :=
  if combinators.isEmpty then .fields conditions
  else match if conditions.isEmpty then combinators else .fields conditions :: combinators with
    | [filter] => filter
    | filters => .and filters

end Filter

namespace Clause

/-- Reads the divisor and the remainder of a division; the remainder is zero if not given. -/
def readDivision? : Value → Option (Float × Float)
  | .array [divisor] => divisor.asNumber?.map (·, 0)
  | .array [divisor, remainder] => do return (← divisor.asNumber?, ← remainder.asNumber?)
  | .array _ => none
  | value => value.asNumber?.map (·, 0)

/-- Reads a number of items; one past the largest of 64 bits counts as that. -/
def readSize? (value : Value) : Option Nat := do
  let size ← value.asNumber?
  if size ≥ 0 && size.floor == size && size.isFinite then return size.toUInt64.toNat else none

/-- A clause over a list of items, each with a condition of its own. -/
def overList (token : String) (operand : Value) (items : List Condition)
    (make : List Condition → Clause) : Clause :=
  match operand with
  | .array _ => make items
  | _ => .invalid token .notAList

/-- A clause over a text. -/
def overText (token : String) (operand : Value) (make : String → Clause) : Clause :=
  match operand with
  | .string text => make text
  | _ => .invalid token .notAString

/-- A clause over a list of values. -/
def overValues (token : String) (operand : Value) (make : List Value → Clause) : Clause :=
  match operand with
  | .array values => make values
  | _ => .invalid token .notAList

/-- The condition on the items of a list: clauses if the operand has operators, and equality
otherwise. -/
def itemCondition (operand : Value) (condition : Condition) : Condition :=
  match operand with
  | .document fields => if Filter.hasOperators fields then condition else .literal operand
  | _ => .literal operand

/-- The clause of a token and its operand, given the condition that the operand is, and those
that its items are if it is a list. -/
def make (token : String) (operand : Value) (condition : Condition) (items : List Condition) :
    Clause :=
  match Filter.operatorName token with
  | "$exists" => .present operand.isTruthy
  | "$eq" => .eq operand
  | "$ne" => .ne operand
  | "$in" => overValues token operand .oneOf
  | "$nin" => overValues token operand .noneOf
  | "$gt" => .gt operand
  | "$gte" => .gte operand
  | "$lt" => .lt operand
  | "$lte" => .lte operand
  | "$mod" =>
    match readDivision? operand with
    | some (divisor, remainder) =>
      if divisor != 0 then .mod divisor remainder else .invalid token .notADivisor
    | none => .invalid token .notADivisor
  | "$cts" => overText token operand .contains
  | "$sw" => overText token operand .startsWith
  | "$ew" => overText token operand .endsWith
  | "$regex" =>
    match operand with
    | .string source =>
      match Pattern.ofText? source with
      | some pattern => .regex pattern
      | none => .invalid token .badPattern
    | _ => .invalid token .notAPatternText
  | "$all" => .all (itemCondition operand condition)
  | "$em" => .elemMatch (itemCondition operand condition)
  | "$size" =>
    match readSize? operand with
    | some count => .size count
    | none => .invalid token .notASize
  | "$and" => overList token operand items .and
  | "$or" => overList token operand items .or
  | "$nor" => overList token operand items .nor
  | "$not" => .not condition
  | _ => .invalid token .unknown

end Clause

mutual

/-- The condition that a value puts on a field. -/
def Condition.ofValue : Value → Condition
  | .document fields =>
    if Filter.hasOperators fields then .clauses (Clause.ofFields fields)
    else
      .document fields
        (Filter.assemble (Filter.conditionsOf fields) (Filter.combinatorsOf fields))
  | value => .literal value

/-- The conditions of the items of a list. -/
def Condition.ofItems : List Value → List Condition
  | [] => []
  | item :: rest => Condition.ofValue item :: Condition.ofItems rest

/-- The conditions of the items of a value, if it is a list. -/
def Condition.itemsOf : Value → List Condition
  | .array items => Condition.ofItems items
  | _ => []

/-- The clauses of the fields of a document. -/
def Clause.ofFields : List (String × Value) → List Clause
  | [] => []
  | (token, operand) :: rest =>
    Clause.make token operand (Condition.ofValue operand) (Condition.itemsOf operand)
      :: Clause.ofFields rest

/-- The conditions on fields in a document: those of truthy values under plain names. -/
def Filter.conditionsOf : List (String × Value) → List (String × Condition)
  | [] => []
  | (key, value) :: rest =>
    if Filter.isOperator key || !value.isTruthy then Filter.conditionsOf rest
    else (key, Condition.ofValue value) :: Filter.conditionsOf rest

/-- The combinators in a document. -/
def Filter.combinatorsOf : List (String × Value) → List Filter
  | [] => []
  | (key, value) :: rest =>
    if Filter.isOperator key then Filter.ofCombinator key value :: Filter.combinatorsOf rest
    else Filter.combinatorsOf rest

/-- The filter of a combinator and its operand: a document for `$not`, a list of documents for
`$and`, `$or` and `$nor`. -/
def Filter.ofCombinator (token : String) : Value → Filter
  | .document fields =>
    if Filter.operatorName token = "$not" then
      .not (Filter.assemble (Filter.conditionsOf fields) (Filter.combinatorsOf fields))
    else .invalid token
  | .array items =>
    match Filter.operatorName token with
    | "$and" => .and (Filter.ofItems token items)
    | "$or" => .or (Filter.ofItems token items)
    | "$nor" => .nor (Filter.ofItems token items)
    | _ => .invalid token
  | _ => .invalid token

/-- The filters of the items of a combinator; an item that is no document matches nothing. -/
def Filter.ofItems (token : String) : List Value → List Filter
  | [] => []
  | item :: rest => Filter.ofItem token item :: Filter.ofItems token rest

/-- The filter of one item of a combinator. -/
def Filter.ofItem (token : String) : Value → Filter
  | .document fields => Filter.assemble (Filter.conditionsOf fields) (Filter.combinatorsOf fields)
  | _ => .invalid token

end

namespace Clause

/-- The clause of a token and its operand. -/
def ofOperand (token : String) (operand : Value) : Clause :=
  make token operand (Condition.ofValue operand) (Condition.itemsOf operand)

end Clause

namespace Filter

/-- The filter that a document describes. -/
def ofDocument (d : Document) : Filter :=
  assemble (Filter.conditionsOf d) (Filter.combinatorsOf d)

end Filter

end FieldGuard
