import FieldGuard.Document.Projection
import FieldGuard.Filter.Matching
import FieldGuard.Query

/-!
# Tables

A `Table` holds the entries of one collection in order of insertion; no two have one identifier.
A query selects from it in four steps: filter, sort, cut out a page, and project.
-/

namespace FieldGuard

/-- The entries of one collection. -/
structure Table where
  entries : List Entry

namespace Table

/-- The table without entries. -/
def empty : Table := ⟨[]⟩

instance : Inhabited Table := ⟨empty⟩

/-- The identifiers of the entries, in order. -/
def ids (table : Table) : List String :=
  table.entries.map (·.id)

/-- The first identifier of some entries that is taken, by an entry stored or by an earlier one
of them. -/
def firstTaken? (taken : List String) : List Entry → Option String
  | [] => none
  | entry :: rest =>
    if taken.contains entry.id then some entry.id else firstTaken? (entry.id :: taken) rest

/-- Puts entries at the end. -/
def append (table : Table) (entries : List Entry) : Table :=
  ⟨table.entries ++ entries⟩

/-- Puts a record in the place of the one with the identifier given. -/
def replace (table : Table) (id : String) (record : Document) : Table :=
  ⟨table.entries.map fun entry => if entry.id = id then { entry with record } else entry⟩

end Table

namespace SortKey

/-- Whether the first record comes before the second. -/
def isBefore (key : SortKey) (a b : Document) : Bool :=
  let order := Value.sortOrder (Document.lookup? a key.field) (Document.lookup? b key.field)
  match key.direction with
  | .ascending => order.isLT
  | .descending => order.isGT

end SortKey

namespace Query

/-- Whether the query is about an entry: it is live or deleted entries are asked for, its
identifier is asked for, and its record matches the filter. -/
def selects (query : Query) (entry : Entry) : Bool :=
  (query.includeDeleted || !Record.isDeleted entry.record)
    && query.ids.all (·.contains entry.id)
    && query.filter.all fun filter => filter.accepts entry.record

/-- The entries in the order that the query asks for. -/
def arrange (query : Query) (entries : List Entry) : List Entry :=
  match query.sort with
  | none => entries
  | some key => query.sorting.sort (fun a b => key.isBefore a.record b.record) entries

/-- The page that the query asks for. -/
def page (query : Query) (entries : List Entry) : List Entry :=
  let rest := entries.drop (query.offset.getD 0)
  match query.limit with
  | none => rest
  | some limit => rest.take limit

/-- Whether the limit of the query cuts off some of the entries. -/
def isLimiting (query : Query) (entries : List Entry) : Bool :=
  query.limit.any fun limit => limit < entries.length - query.offset.getD 0

/-- An entry with the fields of its record that the query asks for. -/
def projectEntry (query : Query) (entry : Entry) : Entry :=
  { entry with record := Document.project entry.record query.projection }

end Query

namespace Table

/-- The entries that a query selects. -/
def select (table : Table) (query : Query) : Selection :=
  let found := query.arrange (table.entries.filter query.selects)
  ⟨(query.page found).map query.projectEntry, query.isLimiting found⟩

end Table

end FieldGuard
