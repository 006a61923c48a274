import FieldGuard.Actor
import FieldGuard.Document.Flat
import FieldGuard.Record

/-!
# Reduction by permissions

Reducing a selection withholds from each record what the actor may not see for an operation. The
paths withheld are the outermost ones: those that hold something in the record, require a token that
the actor lacks, and lie below no path withheld already.
-/

namespace FieldGuard

/-- How often each path was withheld. -/
abbrev Tally := SortedDict Nat

/-- Counts a path once more. -/
def Tally.count (tally : Tally) (path : String) : Tally :=
  tally.insert path ((tally.get? path).getD 0 + 1)

/-- Counts some paths once more each. -/
def Tally.countAll (tally : Tally) (paths : List String) : Tally :=
  paths.foldl Tally.count tally

/-- Goes through paths with their triples and collects those to withhold. -/
def Twin.collectRestricted (flat : Document) (member : Member) (operation : Operation)
    (restricted : List String) : List (String × Triple) → List String
  | [] => restricted
  | (path, triple) :: rest =>
    if Path.isWithinAny path restricted then
      collectRestricted flat member operation restricted rest
    else if Document.holdsWithin flat path && !member.grants (triple.required operation) then
      collectRestricted flat member operation (restricted ++ [path]) rest
    else
      collectRestricted flat member operation restricted rest

/-- The paths of a flat record that the actor may not touch, outermost and in order. -/
def Twin.restrictedPaths (twin : Twin) (flat : Document) (member : Member)
    (operation : Operation) : List String :=
  collectRestricted flat member operation [] twin.fields.entries

/-- A record as an actor may see it. -/
structure Redacted where
  /-- The identifier of the stored record. -/
  id : String
  /-- The record without what is withheld. -/
  record : Document
  /-- The paths withheld. -/
  restrictedPaths : List String

/-- Whether anything of the record is withheld. -/
def Redacted.isRestricted (redacted : Redacted) : Bool :=
  !redacted.restrictedPaths.isEmpty

/-- A selection as an actor may see it. -/
structure Reduction where
  records : List Redacted
  /-- Whether anything of any record is withheld. -/
  isRestricted : Bool
  /-- Whether the limit of the query cut off further matches. -/
  isLimited : Bool
  /-- In how many records each path was withheld. -/
  notPermitted : Tally

namespace Reduction

/-- The records as the actor may see them. -/
def payload (reduction : Reduction) : List Document :=
  reduction.records.map (·.record)

/-- An entry with nothing withheld. -/
def passThrough (entry : Entry) : Redacted :=
  ⟨entry.id, entry.record, []⟩

/-- An entry as a member may see it. A record whose permissions require no token at all passes. -/
def redactEntry (member : Member) (operation : Operation) (entry : Entry) : Redacted :=
  if entry.permissions.isOpen then passThrough entry
  else
    let flat := Document.flatten entry.record
    let paths := entry.permissions.restrictedPaths flat member operation
    if paths.isEmpty then passThrough entry
    else ⟨entry.id, Document.nest (Document.withoutPaths flat paths), paths⟩

end Reduction

/-- The selection as the actor may see it for an operation. -/
def reduce (actor : Actor) (selection : Selection) (operation : Operation) : Reduction :=
  match actor with
  | .superadmin =>
    ⟨selection.entries.map Reduction.passThrough, false, selection.isLimited, .empty⟩
  | .member member =>
    let records := selection.entries.map (Reduction.redactEntry member operation)
    ⟨records, records.any (·.isRestricted), selection.isLimited,
      records.foldl (fun tally redacted => tally.countAll redacted.restrictedPaths) .empty⟩

end FieldGuard
