import FieldGuard.Error
import FieldGuard.Table

/-!
# The storage underneath

A `Backend` holds the tables of all collections by name. Its actions may fail, and what they
had done until then stays done; each checks everything before it changes anything.
-/

namespace FieldGuard

/-- The tables of all collections. -/
structure Backend where
  tables : SortedDict Table

namespace Backend

/-- The storage without collections. -/
def empty : Backend := ⟨.empty⟩

/-- What is done to the storage, with a result or an error. -/
abbrev Action (α : Type) := ExceptT Error (StateM Backend) α

/-- The table of a collection. -/
def table (name : String) : Action Table := do
  match (← get).tables.get? name with
  | some table => return table
  | none => throw (.collectionNotFound name)

/-- Puts a table in the place of that of a collection. -/
def setTable (name : String) (table : Table) : Action Unit :=
  modify fun backend => ⟨backend.tables.insert name table⟩

/-- Adds entries to a collection, unless an identifier is taken. -/
def insertEntries (name : String) (entries : List Entry) : Action Unit := do
  let table ← table name
  match Table.firstTaken? table.ids entries with
  | some id => throw (.recordAlreadyExists id name)
  | none => setTable name (table.append entries)

/-- The identifier under which a record is stored in a table. -/
def storedId (name : String) (table : Table) (record : Document) : Except Error String :=
  match Record.id? record with
  | none => .error (.invalidRecord "record has no `_id`")
  | some id => if table.ids.contains id then .ok id else .error (.recordNotFound id name)

/-- Puts records in the place of those stored under their identifiers, unless one of them is not
stored. -/
def replaceRecords (name : String) (records : List Document) : Action Unit := do
  let table ← table name
  let ids ← MonadExcept.ofExcept (records.mapM (storedId name table))
  setTable name <|
    (ids.zip records).foldl (fun table change => table.replace change.1 change.2) table

/-- The entries of a collection that a query selects. -/
def select (name : String) (query : Query) : Action Selection := do
  return (← table name).select query

/-- Creates a collection without entries; one that is there stays as it is. -/
def createCollection (name : String) : Action Unit := do
  if (← get).tables.contains name then return ()
  setTable name .empty

/-- Drops a collection with its entries. -/
def dropCollection (name : String) : Action Unit := do
  let _ ← table name
  modify fun backend => ⟨backend.tables.erase name⟩

/-- The names of the collections, in order. -/
def listCollections : Action (List String) := do
  return (← get).tables.keys

end Backend

end FieldGuard
