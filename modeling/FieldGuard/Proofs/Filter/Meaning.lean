import FieldGuard.Document.Flat
import FieldGuard.Filter.Reading
import FieldGuard.Number.Remainder
import FieldGuard.Proofs.Value.Order
import FieldGuard.Text.Blank
import Mathlib.Data.List.Forall2
import Mathlib.Data.List.Infix

/-!
# What a filter document means

A filter document means something without any filter being read from it: every field of it says
something of the record, going down the document and the record together (`Value.Describes`). A
field under an operator name combines filters (`Value.Combines`); every other one is a condition on
the value in the record (`Value.Admits`), which is equality, a filter for the document that stands
there, or operators on the value (`Value.Passes`). What is an operator, and which one, is told from
how the name is written (`Filter.NamesOperator`, `Filter.Spells`).
-/

namespace FieldGuard

/-! ## Operators -/

/-- The characters are the same, or an ASCII letter in its two cases. -/
inductive Text.SameButCase : Char → Char → Prop
  | same (c : Char) : SameButCase c c
  | capital {c d : Char} (h : 'A' ≤ c) (h' : c ≤ 'Z') (hd : d.toNat = c.toNat + 32) :
      SameButCase c d
  | small {c d : Char} (h : 'A' ≤ d) (h' : d ≤ 'Z') (hc : c.toNat = d.toNat + 32) :
      SameButCase c d

namespace Filter

/-- The name is that of an operator: it starts with a dollar sign. -/
def NamesOperator (name : String) : Prop :=
  ['$'] <+: name.toList

instance (name : String) : Decidable (NamesOperator name) :=
  inferInstanceAs (Decidable (['$'] <+: name.toList))

/-- The token is the name of the operator, in either case of its letters. -/
def Spells (token operator : String) : Prop :=
  List.Forall₂ Text.SameButCase token.toList operator.toList

end Filter

/-! ## Operands -/

namespace Value

/-- The value puts no constraint on a field. -/
inductive Falsy : Value → Prop
  | null : Falsy null
  | undefined : Falsy undefined
  | untrue : Falsy (boolean false)
  | empty : Falsy (string "")
  | zero {value : Value} {x : Float} (h : value.asNumber? = some x) (hzero : (x == 0) = true) :
      Falsy value
  | nan {x : Float} (h : x.isNaN = true) : Falsy (double x)

/-- The value asks for a remainder on division: a divisor, alone or as the only one of a list, for
the remainder zero, or a list of both. -/
inductive AsksRemainder : Value → Float → Float → Prop
  | divisor {value : Value} {d : Float} (h : value.asNumber? = some d) : AsksRemainder value d 0
  | single {value : Value} {d : Float} (h : value.asNumber? = some d) :
      AsksRemainder (array [value]) d 0
  | both {value value' : Value} {d r : Float} (h : value.asNumber? = some d)
      (h' : value'.asNumber? = some r) : AsksRemainder (array [value, value']) d r

/-- The value asks for a number of items: it is a whole number that is not negative, the largest
number of 64 bits standing for all beyond it. -/
def AsksCount (value : Value) (count : Nat) : Prop :=
  ∃ size, value.asNumber? = some size ∧ size ≥ 0 ∧ (size.floor == size) = true ∧
    size.isFinite = true ∧ size.toUInt64.toNat = count

/-- The value is a document with an operator among its fields. -/
def UsesOperators (value : Value) : Prop :=
  ∃ field ∈ value.asDocument?.getD [], Filter.NamesOperator field.1

instance (value : Value) : Decidable value.UsesOperators :=
  inferInstanceAs (Decidable (∃ field ∈ value.asDocument?.getD [], Filter.NamesOperator field.1))

end Value

/-! ## The meaning of a filter document -/

mutual

/-- The record is one of those that the value, as a filter, is for: if a document, all its fields
hold, but for falsy ones under plain names, which need not. -/
def Value.Describes (filter : Value) (record : Document) : Prop :=
  match filter with
  | .document fields =>
    ∀ field ∈ fields,
      if Filter.NamesOperator field.1 then Value.Combines field.1 field.2 record
      else ¬ field.2.Falsy → Value.Admits field.2 (Document.lookup? record field.1)
  | _ => False
termination_by (sizeOf filter, 0)
decreasing_by
  all_goals exact .left _ _ (Value.sizeOf_lt_of_mem_fields ‹_›)

/-- The combinator of filters holds for the record; an unknown or malformed one does not. -/
def Value.Combines (token : String) (operand : Value) (record : Document) : Prop :=
  -- What the operand is stands under a quantifier of its own, for the recursion to see that the
  -- items are smaller.
  ∃ operator, Filter.Spells token operator ∧ match operator with
  | "$not" => ∃ (d : _) (_ : operand = .document d), ¬ operand.Describes record
  | "$and" => ∃ (items : _) (_ : operand = .array items), ∀ item ∈ items, item.Describes record
  | "$or" =>
    ∃ (items : _) (_ : operand = .array items) (item : _) (_ : item ∈ items), item.Describes record
  | "$nor" => ∃ (items : _) (_ : operand = .array items), ∀ item ∈ items, ¬ item.Describes record
  | _ => False
termination_by (sizeOf operand, 1)
decreasing_by
  · exact .right _ (by decide)
  all_goals
    subst_vars
    exact .left _ _ (Value.sizeOf_lt_of_mem_items ‹_›)

/-- The value of a field, if it is there, is one of those that the condition is for. -/
def Value.Admits (condition : Value) (value : Option Value) : Prop :=
  match condition with
  | .document fields =>
    if Value.UsesOperators (.document fields) then
      ∀ field ∈ fields, Value.Passes field.1 field.2 value
    else ∃ inner, value = some (.document inner) ∧ Value.Describes (.document fields) inner
  | condition => (value.getD .null).Equals condition
termination_by (sizeOf condition, 1)
decreasing_by
  · exact .left _ _ (Value.sizeOf_lt_of_mem_fields ‹_›)
  · exact .right _ (by decide)

/-- The value of a field, if it is there, passes the clause; no value passes an unknown or malformed
one. -/
def Value.Passes (token : String) (operand : Value) (value : Option Value) : Prop :=
  ∃ operator, Filter.Spells token operator ∧ match operator with
  | "$exists" => (∃ v, value = some v ∧ v ≠ .null ∧ v ≠ .undefined) ↔ ¬ operand.Falsy
  | "$eq" => (value.getD .null).Equals operand
  | "$ne" => ¬ (value.getD .null).Equals operand
  | "$in" =>
    ∃ candidates, operand = .array candidates ∧ ∃ c ∈ candidates, (value.getD .null).Equals c
  | "$nin" =>
    ∃ candidates, operand = .array candidates ∧ ∀ c ∈ candidates, ¬ (value.getD .null).Equals c
  | "$gt" => ∃ v, value = some v ∧ operand.Less v
  | "$gte" => ∃ v, value = some v ∧ (v.isOrderable = true ∧ v.Equals operand ∨ operand.Less v)
  | "$lt" => ∃ v, value = some v ∧ v.Less operand
  | "$lte" => ∃ v, value = some v ∧ (v.Less operand ∨ v.isOrderable = true ∧ v.Equals operand)
  | "$mod" =>
    ∃ d r n, operand.AsksRemainder d r ∧ (d == 0) = false ∧ value.bind Value.asNumber? = some n ∧
      (Number.remainder n d == r) = true
  | "$cts" =>
    ∃ part text, operand = .string part ∧ value = some (.string text) ∧
      part.toList <:+: text.toList
  | "$sw" =>
    ∃ part text, operand = .string part ∧ value = some (.string text) ∧
      part.toList <+: Text.trimBlanks text.toList
  | "$ew" =>
    ∃ part text, operand = .string part ∧ value = some (.string text) ∧
      part.toList <:+ Text.trimBlanks text.toList
  | "$regex" =>
    ∃ source pattern text, operand = .string source ∧ Pattern.ofText? source = some pattern ∧
      value = some (.string text) ∧ pattern.matchesIn text = true
  | "$all" =>
    ∃ items, value = some (.array items) ∧ ∀ item ∈ items,
      if operand.UsesOperators then operand.Admits (some item) else item.Equals operand
  | "$em" =>
    ∃ items, value = some (.array items) ∧ ∃ item ∈ items,
      if operand.UsesOperators then operand.Admits (some item) else item.Equals operand
  | "$size" => ∃ items, value = some (.array items) ∧ operand.AsksCount items.length
  | "$and" => ∃ (items : _) (_ : operand = .array items), ∀ item ∈ items, item.Admits value
  | "$or" =>
    ∃ (items : _) (_ : operand = .array items) (item : _) (_ : item ∈ items), item.Admits value
  | "$nor" => ∃ (items : _) (_ : operand = .array items), ∀ item ∈ items, ¬ item.Admits value
  | "$not" => ¬ operand.Admits value
  | _ => False
termination_by (sizeOf operand, 2)
decreasing_by
  · exact .right _ (by decide)
  · exact .right _ (by decide)
  iterate 3
    · subst_vars
      exact .left _ _ (Value.sizeOf_lt_of_mem_items ‹_›)
  exact .right _ (by decide)

end

end FieldGuard
