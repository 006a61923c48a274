import FieldGuard.Proofs.Dict
import FieldGuard.Table
import Mathlib.Data.List.Forall2
import Mathlib.Data.List.Nodup

/-!
# Selecting from and writing to tables

* `Table.found`: the entries that a query selects, as they are stored; `select` projects them;
* `Table.mem_found`, `Table.nodup_ids_found`: they are entries of the table, each once;
* `Table.replaceAll_entries`: replacing records by identifier changes each entry on its own.
-/

namespace FieldGuard

/-! ## Sorting -/

/-- Lists of elements that compare alike are sorted alike. -/
theorem Sorting.forall₂_sort {α : Type} (sorting : Sorting α) {R : α → α → Prop}
    {smaller smaller' : α → α → Bool}
    (hsmaller : ∀ {x x' y y'}, R x x' → R y y' → smaller x y = smaller' x' y')
    {xs ys : List α} (h : List.Forall₂ R xs ys) :
    List.Forall₂ R (sorting.sort smaller xs) (sorting.sort smaller' ys) := by
  have hpairs : ∀ p ∈ xs.zip ys, R p.1 p.2 := fun p hp => List.forall₂_zip h hp
  obtain ⟨arranged, hperm, hxs, hys⟩ := sorting.alike
    fun p hp q hq => hsmaller (hpairs p hp) (hpairs q hq)
  rw [List.map_fst_zip (Nat.le_of_eq h.length_eq)] at hxs
  rw [List.map_snd_zip (Nat.le_of_eq h.length_eq.symm)] at hys
  rw [hxs, hys, List.forall₂_map_left_iff, List.forall₂_map_right_iff, List.forall₂_same]
  exact fun p hp => hpairs p (hperm.subset hp)

namespace Query

variable (query : Query)

theorem perm_arrange (entries : List Entry) : (query.arrange entries).Perm entries := by
  unfold arrange
  split
  · exact .refl _
  · exact query.sorting.perm_sort _ _

theorem isInfix_page (entries : List Entry) : query.page entries <:+: entries := by
  unfold page
  split
  · exact (List.drop_suffix _ _).isInfix
  · exact (List.take_prefix _ _).isInfix.trans (List.drop_suffix _ _).isInfix

theorem forall₂_page {R : Entry → Entry → Prop} {entries others : List Entry}
    (h : List.Forall₂ R entries others) :
    List.Forall₂ R (query.page entries) (query.page others) := by
  unfold page
  split
  · exact List.forall₂_drop _ h
  · exact List.forall₂_take _ (List.forall₂_drop _ h)

theorem page_sublist (entries : List Entry) : (query.page entries).Sublist entries :=
  (query.isInfix_page entries).sublist

theorem page_of_unlimited {query : Query} (hlimit : query.limit = none)
    (hoffset : query.offset = none) (entries : List Entry) : query.page entries = entries := by
  simp [page, hlimit, hoffset]

/-- A query for the record of an identifier, deleted or not, projected to some paths. -/
def ofId (id : String) (paths : List String) : Query :=
  { ids := some [id], projection := paths, includeDeleted := true }

end Query

/-! ## Selecting -/

namespace Table

variable {table : Table} {query : Query} {entry : Entry}

/-- The entries that a query selects, as they are stored. -/
def found (table : Table) (query : Query) : List Entry :=
  query.page (query.arrange (table.entries.filter query.selects))

theorem select_entries (table : Table) (query : Query) :
    (table.select query).entries = (table.found query).map query.projectEntry := rfl

/-- Without a projection, a selection holds the entries as they are stored. -/
theorem select_whole_entries (table : Table) (query : Query) :
    (table.select { query with projection := [] }).entries = table.found query :=
  List.map_id (table.found query)

theorem mem_found (h : entry ∈ table.found query) :
    entry ∈ table.entries ∧ query.selects entry = true := by
  have hpage := (query.page_sublist _).subset h
  exact List.mem_filter.1 ((query.perm_arrange _).subset hpage)

theorem mem_found_of_unlimited (hlimit : query.limit = none) (hoffset : query.offset = none) :
    entry ∈ table.found query ↔ entry ∈ table.entries ∧ query.selects entry = true := by
  rw [found, Query.page_of_unlimited hlimit hoffset, (query.perm_arrange _).mem_iff,
    List.mem_filter]

theorem nodup_ids_found (h : table.ids.Nodup) : ((table.found query).map (·.id)).Nodup := by
  have hfilter : ((table.entries.filter query.selects).map (·.id)).Nodup :=
    h.sublist (List.filter_sublist.map _)
  have harrange := (((query.perm_arrange _).map (·.id)).nodup_iff).2 hfilter
  exact harrange.sublist ((query.page_sublist _).map _)

/-- Entries with one identifier are one entry. -/
theorem entry_eq_of_id (h : table.ids.Nodup) {other : Entry} (he : entry ∈ table.entries)
    (ho : other ∈ table.entries) (hid : entry.id = other.id) : entry = other :=
  List.inj_on_of_nodup_map h he ho hid

theorem mem_found_ofId {id : String} {paths : List String} :
    entry ∈ table.found (Query.ofId id paths) ↔ entry ∈ table.entries ∧ entry.id = id := by
  change entry ∈ table.entries.filter _ ↔ _
  simp [Query.selects, Query.ofId]

/-- An identifier selects its entry alone. -/
theorem found_ofId (h : table.ids.Nodup) (hentry : entry ∈ table.entries) (paths : List String) :
    table.found (Query.ofId entry.id paths) = [entry] := by
  have hnodup : (table.found (Query.ofId entry.id paths)).Nodup :=
    (nodup_ids_found h).of_map
  refine List.perm_singleton.1 ((List.perm_ext_iff_of_nodup hnodup (List.nodup_singleton _)).2 ?_)
  intro other
  rw [mem_found_ofId, List.mem_singleton]
  constructor
  · rintro ⟨hother, hid⟩
    exact entry_eq_of_id h hother hentry hid
  · rintro rfl
    exact ⟨hentry, rfl⟩

/-! ## Writing -/

/-- Writes records in the place of those stored under the identifiers given. -/
def replaceAll (table : Table) (changes : List (String × Document)) : Table :=
  changes.foldl (fun table change => table.replace change.1 change.2) table

/-- Replacing records by identifier changes each entry on its own. -/
theorem replaceAll_entries (table : Table) {changes : List (String × Document)}
    (h : Dict.HasDistinctKeys changes) :
    (table.replaceAll changes).entries = table.entries.map fun entry =>
      { entry with record := (Dict.get? changes entry.id).getD entry.record } := by
  induction changes generalizing table with
  | nil => exact (List.map_id table.entries).symm
  | cons change rest ih =>
    obtain ⟨id, record⟩ := change
    obtain ⟨hid, hrest⟩ := List.nodup_cons.1 h
    have hnone : Dict.get? rest id = none := Dict.get?_eq_none_iff.2 hid
    change ((table.replace id record).replaceAll rest).entries = _
    rw [ih _ hrest, replace, List.map_map]
    refine List.map_congr_left fun entry _ => ?_
    simp only [Function.comp_apply, Dict.get?_cons]
    by_cases he : entry.id = id
    · have hlater : ∀ record',
          Dict.get? rest ({ entry with record := record' } : Entry).id = none := fun _ =>
        show Dict.get? rest entry.id = none by rw [he, hnone]
      rw [if_pos he, if_pos he.symm, hlater]
      rfl
    · rw [if_neg he, if_neg (Ne.symm he)]

end Table

end FieldGuard
