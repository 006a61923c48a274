import FieldGuard.Value

/-!
# Intersection

What several documents have in common: a field that all of them define, undefined values not
counting. Where all hold a document under it, what those have in common; elsewhere, the
value of the last.
-/

namespace FieldGuard

namespace Value

/-- The value under `key`, unless it is undefined. -/
def defined? (key : String) (d : Document) : Option Value :=
  (Dict.get? d key).filter fun value => !value.isUndefined

mutual

/-- What a value has in common with others at the same place. -/
def common (others : List Value) : Value → Value
  | document fields =>
    match others.mapM asDocument? with
    | some documents => document (commonFields documents fields)
    | none => others.getLastD (document fields)
  | value => others.getLastD value

/-- The fields that other documents define too. -/
def commonFields (others : List Document) : List (String × Value) → List (String × Value)
  | [] => []
  | (key, value) :: rest =>
    if value.isUndefined then commonFields others rest
    else match others.mapM (defined? key) with
      | some values => (key, common values value) :: commonFields others rest
      | none => commonFields others rest

end

end Value

namespace Document

/-- What the documents have in common, in the order of the first; none of no document, and a
single document unchanged. -/
def intersect : List Document → Option Document
  | [] => none
  | [d] => some d
  | first :: others => some (Value.commonFields others first)

end Document

end FieldGuard
