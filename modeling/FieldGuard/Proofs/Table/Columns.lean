import FieldGuard.Proofs.Table

/-!
# Tables as two columns

The entries of a table are two lists side by side, the records and their twins. Only the twins say
which record is whose, by the place at which they stand:

* `Columns.replace`: a record goes to the place at which the twins have its identifier;
* `Columns.IsAligned`: each record carries the identifier of the twin at its place;
* `Table.columns_append`, `Table.columns_replaceAll`: what is done to a table, done to its columns.
-/

namespace FieldGuard

/-- The records of some entries, and apart from them their twins. -/
structure Columns where
  records : List Document
  twins : List Twin

namespace Columns

variable (columns : Columns)

/-- The first place at which the twins have an identifier. -/
def position? (id : String) : Option Nat :=
  columns.twins.findIdx? fun twin : Twin => twin.id = id

/-- Puts entries at the end of both columns. -/
def append (entries : List Entry) : Columns :=
  ⟨columns.records ++ entries.map (·.record), columns.twins ++ entries.map (·.permissions)⟩

/-- Puts a record at the place at which the twins have an identifier. -/
def replace (id : String) (record : Document) : Columns :=
  match columns.position? id with
  | some place => { columns with records := columns.records.set place record }
  | none => columns

/-- Puts records at the places of the identifiers given, one after the other. -/
def replaceAll (changes : List (String × Document)) : Columns :=
  changes.foldl (fun columns change => columns.replace change.1 change.2) columns

/-- The columns are of one length, each record carries the identifier of the twin at its place, and
no two twins have one identifier. -/
structure IsAligned : Prop where
  length : columns.records.length = columns.twins.length
  id : ∀ (place : Nat) (record : Document) (twin : Twin), columns.records[place]? = some record →
    columns.twins[place]? = some twin → Record.id? record = some twin.id
  distinct : (columns.twins.map Twin.id).Nodup

@[simp] theorem append_nil : columns.append [] = columns := by
  simp [append]

@[simp] theorem twins_append (entries : List Entry) :
    (columns.append entries).twins = columns.twins ++ entries.map (·.permissions) := rfl

@[simp] theorem twins_replace (id : String) (record : Document) :
    (columns.replace id record).twins = columns.twins := by
  unfold replace
  split <;> rfl

@[simp] theorem twins_replaceAll (changes : List (String × Document)) :
    (columns.replaceAll changes).twins = columns.twins := by
  induction changes generalizing columns with
  | nil => rfl
  | cons change rest ih => exact (ih _).trans (columns.twins_replace _ _)

/-- Columns with an entry put in front. -/
def cons (entry : Entry) : Columns :=
  ⟨entry.record :: columns.records, entry.permissions :: columns.twins⟩

theorem replace_cons_self (entry : Entry) (record : Document) :
    (columns.cons entry).replace entry.id record = columns.cons { entry with record } := by
  simp [cons, replace, position?, Entry.id, List.findIdx?_cons]

theorem replace_cons_of_ne {entry : Entry} {id : String} (h : entry.id ≠ id) (record : Document) :
    (columns.cons entry).replace id record = (columns.replace id record).cons entry := by
  have hne : decide (entry.permissions.id = id) = false := decide_eq_false h
  simp only [cons, replace, position?, List.findIdx?_cons, hne, Bool.false_eq_true, if_false]
  cases columns.twins.findIdx? fun twin : Twin => decide (twin.id = id) <;> rfl

end Columns

namespace Table

/-- The columns of a table. -/
def columns (table : Table) : Columns :=
  ⟨table.entries.map (·.record), table.entries.map (·.permissions)⟩

theorem ids_columns (table : Table) : table.columns.twins.map (·.id) = table.ids := by
  rw [columns, List.map_map]
  rfl

theorem columns_append (table : Table) (entries : List Entry) :
    (table.append entries).columns = table.columns.append entries := by
  simp [columns, append, Columns.append]

theorem ids_replace (table : Table) (id : String) (record : Document) :
    (table.replace id record).ids = table.ids := by
  rw [ids, replace, List.map_map]
  refine List.map_congr_left fun entry _ => ?_
  simp only [Function.comp_apply]
  split <;> rfl

theorem replace_of_not_mem {table : Table} {id : String} (h : id ∉ table.ids) (record : Document) :
    table.replace id record = table := by
  refine congrArg Table.mk ((List.map_congr_left fun entry hentry => ?_).trans (List.map_id _))
  have hne : entry.id ≠ id := fun e => by
    rw [← e] at h
    exact h (List.mem_map_of_mem hentry)
  exact if_neg hne

/-- Where no identifier repeats, the record that a table replaces is that at the place which the
twins give. -/
theorem columns_replace {table : Table} (h : table.ids.Nodup) (id : String) (record : Document) :
    (table.replace id record).columns = table.columns.replace id record := by
  obtain ⟨entries⟩ := table
  induction entries with
  | nil => rfl
  | cons entry rest ih =>
    obtain ⟨hid, hrest⟩ := List.nodup_cons.1 h
    change Columns.cons (replace ⟨rest⟩ id record).columns
        (if entry.id = id then { entry with record } else entry) =
      (Columns.cons (columns ⟨rest⟩) entry).replace id record
    by_cases he : entry.id = id
    · subst he
      rw [if_pos rfl, replace_of_not_mem hid, Columns.replace_cons_self]
    · rw [if_neg he, ih hrest, Columns.replace_cons_of_ne _ he]

theorem columns_replaceAll {table : Table} (h : table.ids.Nodup)
    (changes : List (String × Document)) :
    (table.replaceAll changes).columns = table.columns.replaceAll changes := by
  induction changes generalizing table with
  | nil => rfl
  | cons change rest ih =>
    have hids : (table.replace change.1 change.2).ids.Nodup := by
      rw [ids_replace]
      exact h
    change ((table.replace change.1 change.2).replaceAll rest).columns =
      (table.columns.replace change.1 change.2).replaceAll rest
    rw [ih hids, columns_replace h]

end Table

end FieldGuard
