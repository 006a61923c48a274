import FieldGuard.Permission.Reduction

/-!
# Outcomes

What an operation on records returns: a payload of documents, and what was withheld from it.
-/

namespace FieldGuard

/-- How an operation ended, as the numbers of HTTP say it. -/
inductive Status where
  /-- Everything selected was returned. -/
  | complete
  /-- Something was withheld. -/
  | partialContent
  /-- Nothing was returned. -/
  | notFound
deriving DecidableEq, Repr

/-- The number of a status. -/
def Status.code : Status → Nat
  | complete => 200
  | partialContent => 206
  | notFound => 404

/-- The outcome of an operation. -/
structure Outcome where
  status : Status
  payload : List Document
  /-- Whether anything was withheld. -/
  isRestricted : Bool
  /-- Whether the limit of the query cut off further matches. -/
  isLimited : Bool
  /-- How often each path was withheld. -/
  notPermitted : Tally

namespace Outcome

/-- An outcome, with the status that follows from the rest: nothing was found if nothing is
returned, and the payload is partial if something was withheld. -/
def make (payload : List Document) (isRestricted isLimited : Bool) (notPermitted : Tally) :
    Outcome :=
  let status :=
    if payload.isEmpty then .notFound
    else if isRestricted then .partialContent
    else .complete
  ⟨status, payload, isRestricted, isLimited, notPermitted⟩

/-- A reduction as an outcome. -/
def ofReduction (reduction : Reduction) : Outcome :=
  make reduction.payload reduction.isRestricted reduction.isLimited reduction.notPermitted

end Outcome

end FieldGuard
