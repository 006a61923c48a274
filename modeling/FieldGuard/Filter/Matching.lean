import FieldGuard.Document.Flat
import FieldGuard.Filter
import FieldGuard.Number.Remainder
import FieldGuard.Text.Blank
import FieldGuard.Value.Equality
import FieldGuard.Value.Number
import FieldGuard.Value.Order

/-!
# Which records a filter matches

A clause applied to a value of a kind it does not know is false. A missing value equals null and
is not ordered.
-/

namespace FieldGuard

namespace Value

/-- Whether a value, if it is there, has one of the orders to the bound. -/
def isOrdered (value : Option Value) (bound : Value) (accept : Ordering → Bool) : Bool :=
  match value with
  | some v => (compare? v bound).any accept
  | none => false

/-- Whether a value is a text that passes a test. -/
def testText (value : Option Value) (test : String → Bool) : Bool :=
  match value with
  | some (string text) => test text
  | _ => false

/-- Whether a value is a list that passes a test. -/
def testItems (value : Option Value) (test : List Value → Bool) : Bool :=
  match value with
  | some (array items) => test items
  | _ => false

/-- Whether a value is there, and neither null nor undefined. -/
def isPresent : Option Value → Bool
  | none => false
  | some v => !v.isNothing

end Value

mutual

/-- Whether a record matches a filter. -/
def Filter.accepts : Filter → Document → Bool
  | .fields conditions, record => Filter.fieldsAccept conditions record
  | .and filters, record => Filter.allAccept filters record
  | .or filters, record => Filter.someAccepts filters record
  | .nor filters, record => !Filter.someAccepts filters record
  | .not filter, record => !filter.accepts record
  | .invalid _, _ => false

/-- Whether every field of a record passes its condition. -/
def Filter.fieldsAccept : List (String × Condition) → Document → Bool
  | [], _ => true
  | (path, condition) :: rest, record =>
    condition.accepts (Document.lookup? record path) && Filter.fieldsAccept rest record

/-- Whether a record matches every filter. -/
def Filter.allAccept : List Filter → Document → Bool
  | [], _ => true
  | filter :: rest, record => filter.accepts record && Filter.allAccept rest record

/-- Whether a record matches one of the filters. -/
def Filter.someAccepts : List Filter → Document → Bool
  | [], _ => false
  | filter :: rest, record => filter.accepts record || Filter.someAccepts rest record

/-- Whether a value, which may be missing, passes a condition. -/
def Condition.accepts : Condition → Option Value → Bool
  | .literal expected, value => Value.sameOrMissing value expected
  | .document expected filter, value =>
    match value with
    | some (.document fields) => filter.accepts fields
    | value => Value.sameOrMissing value (.document expected)
  | .clauses clauses, value => Clause.allAccept clauses value

/-- Whether a value passes every clause. -/
def Clause.allAccept : List Clause → Option Value → Bool
  | [], _ => true
  | clause :: rest, value => clause.accepts value && Clause.allAccept rest value

/-- Whether a value passes every condition. -/
def Condition.allAccept : List Condition → Option Value → Bool
  | [], _ => true
  | condition :: rest, value => condition.accepts value && Condition.allAccept rest value

/-- Whether a value passes one of the conditions. -/
def Condition.someAccepts : List Condition → Option Value → Bool
  | [], _ => false
  | condition :: rest, value => condition.accepts value || Condition.someAccepts rest value

/-- Whether a value, which may be missing, passes a clause. -/
def Clause.accepts : Clause → Option Value → Bool
  | .present expected, value => Value.isPresent value == expected
  | .eq expected, value => Value.sameOrMissing value expected
  | .ne expected, value => !Value.sameOrMissing value expected
  | .oneOf candidates, value => candidates.any fun c => Value.sameOrMissing value c
  | .noneOf candidates, value => !candidates.any fun c => Value.sameOrMissing value c
  | .gt bound, value => Value.isOrdered value bound (·.isGT)
  | .gte bound, value => Value.isOrdered value bound (·.isGE)
  | .lt bound, value => Value.isOrdered value bound (·.isLT)
  | .lte bound, value => Value.isOrdered value bound (·.isLE)
  | .mod divisor remainder, value =>
    (value.bind Value.asNumber?).any fun n => Number.remainder n divisor == remainder
  | .contains part, value => Value.testText value fun text => Text.contains text part
  | .startsWith part, value => Value.testText value fun text => Text.startsWith text part
  | .endsWith part, value => Value.testText value fun text => Text.endsWith text part
  | .regex pattern, value => Value.testText value pattern.matchesIn
  | .all condition, value =>
    Value.testItems value fun items => items.all fun item => condition.accepts (some item)
  | .elemMatch condition, value =>
    Value.testItems value fun items => items.any fun item => condition.accepts (some item)
  | .size count, value => Value.testItems value fun items => items.length == count
  | .and conditions, value => Condition.allAccept conditions value
  | .or conditions, value => Condition.someAccepts conditions value
  | .nor conditions, value => !Condition.someAccepts conditions value
  | .not condition, value => !condition.accepts value
  | .invalid _ _, _ => false

end

end FieldGuard
