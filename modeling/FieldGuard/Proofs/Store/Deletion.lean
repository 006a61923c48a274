import FieldGuard.Proofs.Store.Sound

/-!
# Marks of deletion

A stored record says of itself that it is live, or has the stamp of its deletion
(`Record.IsMarked`). A patch cannot turn one into the other, whatever it names: what it writes at
`_deleted` stands below it, which needs a document there (`isDocument_of_mem_permitted`) and leaves
one there (`isDeleted_patched`).
-/

namespace FieldGuard

open Document (branches flatten)

/-! ## Marks -/

namespace Record

/-- The record is live, or it has a stamp of its deletion. -/
inductive IsMarked (record : Document) : Prop
  | live (h : Dict.get? record deletedField = some (.boolean false))
  | deleted {fields : Document} (h : Dict.get? record deletedField = some (.document fields))

variable {record payload : Document} (stamp : Stamp)

theorem isDeleted_of_document {fields : Document}
    (h : Dict.get? record deletedField = some (.document fields)) : isDeleted record = true := by
  rw [isDeleted, h]

theorem isMarked_stampCreated (id : String) : IsMarked (stampCreated payload id stamp) :=
  .live rfl

theorem isDeleted_stampCreated (id : String) :
    isDeleted (stampCreated payload id stamp) = false := rfl

theorem get?_stampDeleted_deleted :
    Dict.get? (stampDeleted record stamp) deletedField = some stamp.toValue :=
  Dict.get?_insert_self _ _ _

theorem isMarked_stampDeleted : IsMarked (stampDeleted record stamp) :=
  .deleted (get?_stampDeleted_deleted stamp)

theorem isDeleted_stampDeleted : isDeleted (stampDeleted record stamp) = true :=
  isDeleted_of_document (get?_stampDeleted_deleted stamp)

end Record

/-! ## Patches -/

/-- Documents written into a document leave one there. -/
theorem Document.exists_document_merge {d patch : Document} {key : String} {fields : Document}
    (hget : Dict.get? d key = some (.document fields))
    (hpatch : ∀ value, (key, value) ∈ patch → value.isDocument = true) :
    ∃ fields', Dict.get? (merge d patch) key = some (.document fields') := by
  induction patch generalizing d fields with
  | nil => exact ⟨fields, hget⟩
  | cons field rest ih =>
    obtain ⟨k, value⟩ := field
    rw [merge_cons]
    have hrest : ∀ value, (key, value) ∈ rest → value.isDocument = true := fun value hvalue =>
      hpatch value (List.mem_cons_of_mem _ hvalue)
    by_cases hk : key = k
    · subst hk
      cases value with
      | document patch =>
        rw [hget]
        exact ih (Dict.get?_insert_self _ _ _) hrest
      | _ => cases hpatch _ List.mem_cons_self
    · exact ih ((Dict.get?_insert_of_ne _ _ hk).trans hget) hrest

section

variable {actor : Actor} {patch : Document} {entry : Entry} {key : String}

/-- What a patch writes at a system field stands below it. -/
theorem isDocument_of_mem_permitted (hsystem : Record.isSystemField key = true)
    {value : Value} (h : (key, value) ∈ permitted actor patch entry) : value.isDocument = true := by
  by_contra hdoc
  rw [Bool.not_eq_true] at hdoc
  have hvalue := Value.branches_of_isLeaf (Value.isLeaf_of_not_isDocument hdoc)
  have hbranch : ([key], value) ∈ branches (permitted actor patch entry) :=
    Document.mem_branches_of_mem h (hvalue ▸ List.mem_singleton_self _)
  rw [permitted_eq_nest] at hbranch
  obtain ⟨leaf, hleaf, e⟩ := Document.mem_branches_nest
    (fun leaf hleaf => Document.isLeaf_of_mem_flatten (List.mem_of_mem_filter hleaf)) hbranch
  have hsegments : Path.segments leaf.1 = [key] := (Prod.mk.inj e).1.symm
  obtain ⟨name, -, hcontent, hwithin⟩ := exists_key_of_mem_permittedLeaves hleaf
  obtain rfl := Path.eq_of_isWithin hsegments hwithin
  have hkey : Path.segments key = [key] :=
    Path.segments_of_dot_not_mem (Path.dot_not_mem_of_mem_segments (hsegments ▸ List.mem_cons_self))
  rw [Path.segments_injective (hsegments.trans hkey.symm), hsystem] at hcontent
  cases hcontent

/-- A patch makes no record live or deleted that was not. -/
theorem isMarked_patched (h : Record.IsMarked entry.record) (stamp : Stamp) :
    Record.IsMarked (patched actor stamp patch entry) ∧
      Record.isDeleted (patched actor stamp patch entry) = Record.isDeleted entry.record := by
  cases h with
  | live h =>
    have hkey : Record.deletedField ∉ Dict.keys (permitted actor patch entry) :=
      not_mem_keys_permitted_of_value (by decide) (by decide) h rfl
    have hget := get?_patched stamp (by decide) hkey
    exact ⟨.live (hget.trans h), Record.isDeleted_congr hget⟩
  | deleted h =>
    have hpatch : ∀ value, (Record.deletedField, value) ∈ permitted actor patch entry →
        value.isDocument = true := fun value hvalue =>
      isDocument_of_mem_permitted (by decide) hvalue
    obtain ⟨fields, hmerged⟩ := Document.exists_document_merge h hpatch
    have hget := (Record.get?_stampUpdated_of_ne stamp (by decide)).trans hmerged
    exact ⟨.deleted hget,
      (Record.isDeleted_of_document hget).trans (Record.isDeleted_of_document h).symm⟩

end

theorem Rewrite.isMarked {f : Entry → Document} (hf : Rewrite f) {entry : Entry}
    (h : Record.IsMarked entry.record) : Record.IsMarked (f entry) := by
  cases hf with
  | patch actor stamp hp => exact (isMarked_patched h stamp).1
  | delete stamp => exact Record.isMarked_stampDeleted stamp

/-! ## Runs -/

/-- Every record of the table is live or has a stamp of its deletion. -/
def Table.IsMarked (table : Table) : Prop :=
  ∀ entry ∈ table.entries, Record.IsMarked entry.record

theorem Table.IsMarked.step {table table' : Table} {name : String} {drafts : List Draft}
    (h : table.IsMarked) (hs : table.IsSound) (hstep : Table.Step name table drafts table') :
    table'.IsMarked := by
  intro entry hentry
  cases hstep with
  | append _ hentries hinsert =>
    obtain ⟨-, rfl⟩ := Table.insertIn_eq_ok.1 hinsert
    rcases List.mem_append.1 hentry with hentry | hentry
    · exact h entry hentry
    · obtain ⟨draft, -, htoEntry⟩ := exists_of_mapM_eq_ok hentries hentry
      rw [(Draft.toEntry_eq_ok htoEntry).2.1]
      exact Record.isMarked_stampCreated _ _
  | rewrite hf hentries hreplace =>
    rw [hs.isKeyed.replaceIn hf hentries hreplace] at hentry
    obtain ⟨old, hold, rfl⟩ := List.mem_map.1 hentry
    exact hs.isKeyed.of_rewritten (P := Record.IsMarked) hentries hold (h old hold)
      (hf.isMarked (h old hold))

theorem Store.Reachable.isMarked {store : Store} (hr : store.Reachable) {name : String}
    {table : Table} (htable : store.backend.tables.get? name = some table) : table.IsMarked := by
  have h := hr.forall_tables (P := fun table => table.IsSound ∧ table.IsMarked)
    ⟨Table.isSound_empty, fun _ hentry => absurd hentry List.not_mem_nil⟩
    fun h hstep => ⟨h.1.step hstep, h.2.step h.1 hstep⟩
  exact (h name table htable).2

end FieldGuard
