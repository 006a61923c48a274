import FieldGuard.Filter
import FieldGuard.Record
import FieldGuard.Sorting

/-!
# Queries

A query says which records of a collection are selected, in which order, how many of them, and
which of their fields. It comes with the sort that puts them in order, so that what holds of all
queries holds of every sort that keeps what `Sorting` says.
-/

namespace FieldGuard

/-- The direction of a sort. -/
inductive Direction where
  | ascending
  | descending
deriving DecidableEq, Repr

/-- A sort by the value at a path. -/
structure SortKey where
  field : String
  direction : Direction
deriving DecidableEq, Repr

/-- A query over one collection. By default it selects every live record. -/
structure Query where
  /-- The filter that records must match. -/
  filter : Option Filter := none
  /-- The identifiers that records must have one of. -/
  ids : Option (List String) := none
  /-- The paths to keep; none keeps everything. -/
  projection : List String := []
  /-- How many records to select at most. -/
  limit : Option Nat := none
  /-- How many records to pass over. -/
  offset : Option Nat := none
  sort : Option SortKey := none
  /-- The sort that the records are put in order by. -/
  sorting : Sorting Entry := .insertion
  /-- Whether deleted records are selected too. -/
  includeDeleted : Bool := false

end FieldGuard
