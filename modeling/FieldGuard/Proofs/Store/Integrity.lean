import FieldGuard.Proofs.Store.Sound
import FieldGuard.Proofs.Table.Columns

/-!
# Records and their permissions stay together

A table is two columns, and every write of a record finds its place through the twins. So a record
comes under the permissions of another one as soon as the columns are out of step.

* `Columns.Step`: what a request may do to columns: put records in the place of those of the same
  identifier, and new entries at the end;
* `Columns.Extends`: what several requests then come to: no entry is lost, moved or renamed, and no
  twin is changed;
* `columns_kept`: the columns of a reachable store are in step, and requests do nothing else to
  them.
-/

namespace FieldGuard

/-! ## Columns -/

namespace Columns

variable {columns columns' columns'' : Columns} {drafts drafts' : List Draft}

/-- What a request with some drafts may do to columns: put records in the places of those that have
their identifiers, and then entries at the end, one for each draft, in order. -/
def Step (columns : Columns) (drafts : List Draft) (columns' : Columns) : Prop :=
  ∃ (changes : List (String × Document)) (entries : List Entry) (stamp : Stamp),
    (∀ change ∈ changes, Record.id? change.2 = some change.1) ∧
    columns' = (columns.replaceAll changes).append entries ∧
    entries.map (·.id) = drafts.map (·.id) ∧
    entries.map (·.record) =
      drafts.map fun draft => Record.stampCreated draft.payload draft.id stamp

/-- What requests that bring some drafts come to: every entry stays where it is, with its identifier
and its twin, and only the entries of the drafts follow, in order. -/
structure Extends (columns : Columns) (drafts : List Draft) (columns' : Columns) : Prop where
  ids : columns'.records.map Record.id? =
    columns.records.map Record.id? ++ drafts.map fun draft => some draft.id
  twins : columns.twins <+: columns'.twins

theorem Extends.refl (columns : Columns) : columns.Extends [] columns :=
  ⟨(List.append_nil _).symm, List.prefix_refl _⟩

theorem Extends.trans (h : columns.Extends drafts columns')
    (h' : columns'.Extends drafts' columns'') : columns.Extends (drafts ++ drafts') columns'' := by
  refine ⟨?_, h.twins.trans h'.twins⟩
  rw [h'.ids, h.ids, List.map_append, List.append_assoc]

/-- The identifiers of the records are those of the twins. -/
theorem IsAligned.ids (h : columns.IsAligned) :
    columns.records.map Record.id? = columns.twins.map fun twin => some twin.id := by
  refine List.ext_getElem (by simpa using h.length) fun place hrecord htwin => ?_
  simp only [List.getElem_map]
  rw [List.length_map] at hrecord htwin
  exact h.id place _ _ (List.getElem?_eq_getElem hrecord) (List.getElem?_eq_getElem htwin)

/-- Columns that are in step before and after a request are extended by it. -/
theorem Step.extends (hstep : columns.Step drafts columns') (h : columns.IsAligned)
    (h' : columns'.IsAligned) : columns.Extends drafts columns' := by
  obtain ⟨changes, entries, stamp, -, rfl, hids, -⟩ := hstep
  have htwins : (entries.map (·.permissions)).map (fun twin : Twin => some twin.id) =
      drafts.map fun draft => some draft.id := by
    have hsome := congrArg (List.map some) hids
    rw [List.map_map, List.map_map] at hsome
    rw [List.map_map]
    exact hsome
  constructor
  · rw [h'.ids, h.ids, twins_append, twins_replaceAll, List.map_append, htwins]
  · rw [twins_append, twins_replaceAll]
    exact List.prefix_append _ _

end Columns

/-! ## Tables -/

theorem Table.IsSound.isAligned {table : Table} (h : table.IsSound) : table.columns.IsAligned := by
  constructor
  · rw [columns, List.length_map, List.length_map]
  · intro place record twin hrecord htwin
    rw [columns, List.getElem?_map, Option.map_eq_some_iff] at hrecord htwin
    obtain ⟨entry, hentry, rfl⟩ := hrecord
    obtain ⟨other, hother, rfl⟩ := htwin
    obtain rfl := Option.some.inj (hentry.symm.trans hother)
    exact (h.stored entry (List.mem_of_getElem? hentry)).id
  · rw [ids_columns]
    exact h.ids

/-- Records that are created are the payloads of their drafts, stamped. -/
theorem Draft.records_eq {drafts : List Draft} {config : Config} {overrides : SortedDict Triple}
    {stamp : Stamp} {entries : List Entry}
    (h : drafts.mapM (·.toEntry config overrides stamp) = .ok entries) :
    entries.map (·.id) = drafts.map (·.id) ∧
      entries.map (·.record) =
        drafts.map fun draft => Record.stampCreated draft.payload draft.id stamp := by
  rw [mapM_eq_ok] at h
  induction h with
  | nil => exact ⟨rfl, rfl⟩
  | cons hentry _ ih =>
    obtain ⟨hid, hrecord, -⟩ := toEntry_eq_ok hentry
    simp only [List.map_cons]
    exact ⟨by rw [hid, ih.1], by rw [hrecord, ih.2]⟩

theorem Table.Step.columns {table table' : Table} {name : String} {drafts : List Draft}
    (h : table.IsSound) (hstep : Table.Step name table drafts table') :
    table.columns.Step drafts table'.columns := by
  cases hstep with
  | @append config _ overrides stamp entries _ hw hentries hinsert =>
    obtain ⟨-, rfl⟩ := Table.insertIn_eq_ok.1 hinsert
    obtain ⟨hids, hrecords⟩ := Draft.records_eq hentries
    exact ⟨[], entries, stamp, by simp, table.columns_append entries, hids, hrecords⟩
  | @rewrite f query entries _ hf hentries hreplace =>
    refine ⟨entries.map fun entry => (entry.id, f entry), [], ⟨0, ""⟩, ?_, ?_, rfl, rfl⟩
    · intro change hchange
      obtain ⟨entry, hentry, rfl⟩ := List.mem_map.1 hchange
      exact (hf.isStored (h.stored entry (Table.mem_found (hentries.subset hentry)).1)).id
    · rw [h.isKeyed.eq_replaceAll hf hentries hreplace, Table.columns_replaceAll h.ids,
        Columns.append_nil]

/-! ## Requests -/

/-- The drafts that requests, one after the other, put into a collection. -/
def Store.drafted (store : Store) : List Request → String → List Draft
  | [], _ => []
  | request :: rest, name => request.drafted store name ++ (request.next store).drafted rest name

section

variable {store : Store} {name : String} {table : Table}

theorem Store.Reachable.step (hr : store.Reachable) {request : Request} (hw : request.WellFormed)
    (hdropped : request.dropped? ≠ some name)
    (htable : store.backend.tables.get? name = some table) :
    ∃ table', (request.next store).backend.tables.get? name = some table' ∧
      table.columns.Step (request.drafted store name) table'.columns := by
  obtain ⟨table', htable', ⟨hdrafted, rfl⟩ | hstep⟩ := (request.step hw store).table htable hdropped
  · rw [hdrafted]
    exact ⟨table', htable', [], [], ⟨0, ""⟩, by simp, by simp [Columns.replaceAll], rfl, rfl⟩
  · exact ⟨table', htable', hstep.columns (hr.isSound name table htable)⟩

theorem Store.Reachable.extends (hr : store.Reachable) {requests : List Request}
    (hw : ∀ request ∈ requests, request.WellFormed ∧ request.dropped? ≠ some name)
    (htable : store.backend.tables.get? name = some table) :
    ∃ table', (store.after requests).backend.tables.get? name = some table' ∧
      table.columns.Extends (store.drafted requests name) table'.columns := by
  induction requests generalizing store table with
  | nil => exact ⟨table, htable, .refl _⟩
  | cons request rest ih =>
    obtain ⟨⟨hfirst, hdropped⟩, hrest⟩ := List.forall_mem_cons.1 hw
    have hr' : (request.next store).Reachable := hr.next hfirst
    obtain ⟨middle, hmiddle, hstep⟩ := hr.step hfirst hdropped htable
    obtain ⟨table', htable', hextends⟩ := ih hr' hrest hmiddle
    have hfirst := hstep.extends (hr.isSound name table htable).isAligned
      (hr'.isSound name middle hmiddle).isAligned
    exact ⟨table', htable', hfirst.trans hextends⟩

end

/-- Over all runs, records and permissions stay together. In a reachable store the columns of every
collection are in step. No request but one that drops the collection does more to them than put
records in the place of those with their identifiers, and one entry for each of its drafts at the
end; so no run without such a request loses, moves or renames an entry or changes a twin. And a
collection starts without entries. -/
theorem columns_kept {store : Store} (hr : store.Reachable) :
    (∀ name table, store.backend.table? name = .ok table → table.columns.IsAligned) ∧
      (∀ (request : Request) name table, request.WellFormed → request.dropped? ≠ some name →
        store.backend.table? name = .ok table →
          ∃ table', (request.next store).backend.table? name = .ok table' ∧
            table.columns.Step (request.drafted store name) table'.columns) ∧
      (∀ (requests : List Request) name table,
        (∀ request ∈ requests, request.WellFormed ∧ request.dropped? ≠ some name) →
        store.backend.table? name = .ok table →
          ∃ table', (store.after requests).backend.table? name = .ok table' ∧
            table.columns.Extends (store.drafted requests name) table'.columns) ∧
      ∀ (request : Request) name table', request.WellFormed →
        store.backend.table? name = .error (.collectionNotFound name) →
        (request.next store).backend.table? name = .ok table' → table'.columns = ⟨[], []⟩ := by
  simp only [Backend.table?_eq_ok, Backend.table?_eq_error]
  refine ⟨fun name table htable => (hr.isSound name table htable).isAligned,
    fun request name table hw hdropped htable => hr.step hw hdropped htable,
    fun requests name table hw htable => hr.extends hw htable,
    fun request name table' hw hnone htable' => ?_⟩
  rw [(request.step hw store).new_table hnone htable']
  rfl

/-- Two records are created, of which one claims the identifier of the other, and does so again in
an update. -/
theorem columns_kept_update :
    let config : Config := { name := "people" }
    let ann : Draft := ⟨"1", [("name", .string "Ann")]⟩
    let ben : Draft := ⟨"2", [("_id", .string "1"), ("name", .string "Ben")]⟩
    let store := (Store.empty {}).after
      [.registerCollection config, .create config "superadmin" [ann, ben] .empty 1]
    let update : Request := .update config "superadmin" { ids := some ["2"] }
      [("_id", .string "1"), ("name", .string "Bob")] 2
    ∃ table table', store.backend.table? "people" = .ok table ∧
      table.columns.records.map Record.id? = [some "1", some "2"] ∧ table.columns.IsAligned ∧
      (update.next store).backend.table? "people" = .ok table' ∧
      table.columns.Step [] table'.columns := by
  intro config ann ben store update
  have hr : store.Reachable := by
    refine (Store.Reachable.empty {}).after ?_
    simp [Request.WellFormed, ann, ben, Document.DistinctKeys, Value.DistinctKeys,
      Value.FieldsDistinctKeys]
  have hw : update.WellFormed := by
    simp [update, Request.WellFormed, Document.DistinctKeys, Value.DistinctKeys,
      Value.FieldsDistinctKeys]
  obtain ⟨haligned, hstep, -, -⟩ := columns_kept hr
  obtain ⟨table, htable, hids⟩ : ∃ table, store.backend.table? "people" = .ok table ∧
      table.columns.records.map Record.id? = [some "1", some "2"] := by
    simp only [store, config, ann, ben]
    exact ⟨_, rfl, rfl⟩
  obtain ⟨table', htable', hcolumns⟩ :=
    hstep update "people" table hw (Option.some_ne_none _).symm htable
  exact ⟨table, table', htable, hids, haligned _ _ htable, htable', hcolumns⟩

end FieldGuard
