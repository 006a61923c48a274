import FieldGuard.Document.Intersection
import FieldGuard.Document.Merge
import FieldGuard.Outcome
import FieldGuard.Shape.Validation
import FieldGuard.Store

/-!
# Writing records

Creating, updating and removing records. What a change to a record comes to is computed by plain
functions (`Draft.toEntry`, `Change.update?`, `Change.removal`); the actions check them all before
they change the storage once.
-/

namespace FieldGuard

/-- The content of a record to create, with the identifier drawn for it. -/
structure Draft where
  id : String
  payload : Document

/-- Checks a record against the shape of its collection, leaving aside the store's own fields. -/
def Config.validate (config : Config) (record : Document) : Except Error Unit :=
  match config.shape with
  | some shape => shape.validate (Record.content record)
  | none => .ok ()

/-- The entry of a new record. -/
def Draft.toEntry (draft : Draft) (config : Config) (overrides : SortedDict Triple)
    (stamp : Stamp) : Except Error Entry := do
  config.validate draft.payload
  let paths := Dict.keys (Document.flatten (Record.content draft.payload))
  return ⟨Record.stampCreated draft.payload draft.id stamp, config.twin draft.id paths overrides⟩

namespace Document

/-- Whether a value may be written at a path of a stored record: it does not turn a document into
a plain value, or the other way round, there or further out. -/
def fits (stored : Document) (path : String) (value : Value) : Bool :=
  ((Path.ancestors path).all fun ancestor =>
    (lookup? stored ancestor).all Value.isDocument)
  && match lookup? stored path with
    | some (.document _) => false
    | some _ => !value.isDocument
    | none => true

/-- The leaves of a patch that may be written to a stored record: those above no restricted path
that fit. -/
def permittedPatch (patch stored : Document) (restricted : List String) : Document :=
  nest <| (flatten patch).filter fun leaf =>
    !(restricted.any fun denied => Path.isWithin denied leaf.1) && fits stored leaf.1 leaf.2

end Document

/-- What an actor may read of a record, and the paths withheld from it. -/
def Actor.readableView (actor : Actor) (twin : Twin) (record : Document) : Document × List String :=
  match actor with
  | .superadmin => (record, [])
  | .member m =>
    let paths := twin.restrictedPaths (Document.flatten record) m .read
    (Document.redact record paths, paths)

/-- A change to a stored record. -/
structure Change where
  /-- The record after the change. -/
  record : Document
  /-- What the actor is shown of it. -/
  view : Document
  /-- The paths withheld from reading. -/
  unreadable : List String
  /-- Those of them not reported yet for the operation itself. -/
  unreported : List String

namespace Change

/-- The change to a record that shows the actor `visible` of it, less what it may not read. Paths
within those `reported` are not reported again. -/
def make (actor : Actor) (twin : Twin) (record visible : Document) (reported : List String) :
    Change :=
  let (view, unreadable) := actor.readableView twin visible
  ⟨record, view, unreadable, unreadable.filter fun path => !Path.isWithinAny path reported⟩

/-- The change that a patch makes to an entry, of which the actor may update what `redacted` holds.
There is none if nothing of the patch is permitted. -/
def update? (config : Config) (actor : Actor) (stamp : Stamp) (patch : Document)
    (entry : Entry) (redacted : Redacted) : Except Error (Option Change) :=
  let common := Value.commonFields [patch] redacted.record
  let permitted := Document.permittedPatch common entry.record redacted.restrictedPaths
  if permitted.isEmpty then .ok none
  else do
    let record := Record.stampUpdated (Document.merge entry.record permitted) stamp
    config.validate record
    return some (make actor entry.permissions record
      (Document.redact record redacted.restrictedPaths) redacted.restrictedPaths)

/-- The change that removes an entry. -/
def removal (actor : Actor) (stamp : Stamp) (entry : Entry) : Change :=
  let record := Record.stampDeleted entry.record stamp
  make actor entry.permissions record record []

end Change

namespace Store

/-- Selects whole records for writing, with what the actor may see of them for the operation. -/
def selectForWriting (config : Config) (actor : Actor) (query : Query) (operation : Operation) :
    Action (List Entry × Reduction) := do
  let selection ← onBackend (Backend.select config.name { query with projection := [] })
  return (selection.entries, reduce actor selection operation)

/-- Writes changes to the storage and returns their outcome. -/
def commit (config : Config) (reduction : Reduction) (changes : List Change) :
    Action Outcome := do
  unless changes.isEmpty do
    onBackend (Backend.replaceRecords config.name (changes.map (·.record)))
  return .make (changes.map (·.view))
    (reduction.isRestricted || changes.any fun change => !change.unreadable.isEmpty)
    reduction.isLimited
    (changes.foldl (fun tally change => tally.countAll change.unreported) reduction.notPermitted)

/-- Creates records from drafts, all or none of them. -/
def create (config : Config) (actorId : String) (drafts : List Draft)
    (overrides : SortedDict Triple) (now : Int64) : Action Outcome := do
  let _ ← resolve actorId
  let entries ← MonadExcept.ofExcept <| drafts.mapM fun draft =>
    draft.toEntry config overrides ⟨now, actorId⟩
  onBackend (Backend.insertEntries config.name entries)
  return .make (entries.map (·.record)) false false .empty

/-- Writes a patch into the records that a query selects, as far as the actor may. -/
def update (config : Config) (actorId : String) (query : Query) (patch : Document)
    (now : Int64) : Action Outcome := do
  let actor ← resolve actorId
  let (entries, reduction) ← selectForWriting config actor query .update
  let selected := entries.zip reduction.records
  let changes ← MonadExcept.ofExcept <| selected.mapM fun (entry, redacted) =>
    Change.update? config actor ⟨now, actorId⟩ (Record.content patch) entry redacted
  commit config reduction (changes.filterMap id)

/-- Deletes the records that a query selects and of which nothing is withheld from removal. They
stay in the storage, stamped. -/
def remove (config : Config) (actorId : String) (query : Query) (now : Int64) :
    Action Outcome := do
  let actor ← resolve actorId
  let (entries, reduction) ← selectForWriting config actor query .remove
  let selected := entries.zip reduction.records
  let removable := selected.filter fun (_, redacted) => !redacted.isRestricted
  commit config reduction <| removable.map fun (entry, _) =>
    Change.removal actor ⟨now, actorId⟩ entry

end Store

end FieldGuard
