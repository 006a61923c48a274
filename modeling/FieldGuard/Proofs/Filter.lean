import FieldGuard.Filter.Matching

/-!
# Tests of several parts

What tests of lists of filters, conditions and clauses come to: all of a list, or one of them.
-/

namespace FieldGuard

variable (record : Document) (value : Option Value)

theorem Filter.fieldsAccept_eq_all (conditions : List (String × Condition)) :
    fieldsAccept conditions record =
      conditions.all fun field => field.2.accepts (Document.lookup? record field.1) := by
  induction conditions with
  | nil => rfl
  | cons field rest ih => rw [fieldsAccept, ih, List.all_cons]

theorem Filter.allAccept_eq_all (filters : List Filter) :
    allAccept filters record = filters.all (·.accepts record) := by
  induction filters with
  | nil => rfl
  | cons filter rest ih => rw [allAccept, ih, List.all_cons]

theorem Filter.someAccepts_eq_any (filters : List Filter) :
    someAccepts filters record = filters.any (·.accepts record) := by
  induction filters with
  | nil => rfl
  | cons filter rest ih => rw [someAccepts, ih, List.any_cons]

theorem Condition.allAccept_eq_all (conditions : List Condition) :
    allAccept conditions value = conditions.all (·.accepts value) := by
  induction conditions with
  | nil => rfl
  | cons condition rest ih => rw [allAccept, ih, List.all_cons]

theorem Condition.someAccepts_eq_any (conditions : List Condition) :
    someAccepts conditions value = conditions.any (·.accepts value) := by
  induction conditions with
  | nil => rfl
  | cons condition rest ih => rw [someAccepts, ih, List.any_cons]

theorem Clause.allAccept_eq_all (clauses : List Clause) :
    allAccept clauses value = clauses.all (·.accepts value) := by
  induction clauses with
  | nil => rfl
  | cons clause rest ih => rw [allAccept, ih, List.all_cons]

end FieldGuard
