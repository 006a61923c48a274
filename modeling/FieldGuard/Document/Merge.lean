import FieldGuard.Value

/-!
# Deep merge

A patch is written into a document field by field: a document into a document at every depth,
any other value in place of what stands there.
-/

namespace FieldGuard

namespace Value

mutual

/-- The patch value as it stands after it was written over an old one. -/
def mergeOver (old : Option Value) : Value → Value
  | document patch =>
    match old with
    | some (document fields) => document (mergeFields fields patch)
    | _ => document patch
  | value => value

/-- The fields of a document after those of a patch were written into it. -/
def mergeFields (fields : Document) : List (String × Value) → Document
  | [] => fields
  | (key, value) :: rest =>
    mergeFields (Dict.insert fields key (mergeOver (Dict.get? fields key) value)) rest

end

end Value

namespace Document

/-- The target with the patch written into it. -/
def merge (target patch : Document) : Document :=
  Value.mergeFields target patch

end Document

end FieldGuard
