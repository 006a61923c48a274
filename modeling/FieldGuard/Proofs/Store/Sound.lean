import FieldGuard.Proofs.Permission.Base
import FieldGuard.Proofs.Store.Run

/-!
# What runs keep true

* `Entry.IsStored`: a stored record carries its identifier, names no field twice and has a stamp of
  its last change;
* `Table.IsKeyed.replaceIn`: in a table that stores no identifier twice, and each record with its
  own, writing records anew changes each entry on its own;
* `Store.Reachable.isSound`: the tables of a reachable store are of this kind.
-/

namespace FieldGuard

/-! ## Tables -/

/-- A stored entry: its record carries its identifier, names no field twice and has a stamp of
its last change. -/
structure Entry.IsStored (entry : Entry) : Prop where
  id : Record.id? entry.record = some entry.id
  distinctKeys : entry.record.DistinctKeys
  updated : Record.updatedField ∈ Dict.keys entry.record

/-- A table without two entries of one identifier, whose records carry the identifiers of their
entries. -/
structure Table.IsKeyed (table : Table) : Prop where
  ids : table.ids.Nodup
  keyed : ∀ entry ∈ table.entries, Record.id? entry.record = some entry.id

/-- A table without two entries of one identifier. -/
structure Table.IsSound (table : Table) : Prop where
  ids : table.ids.Nodup
  stored : ∀ entry ∈ table.entries, entry.IsStored

theorem Table.isSound_empty : Table.empty.IsSound :=
  ⟨List.nodup_nil, fun _ hentry => absurd hentry List.not_mem_nil⟩

theorem Table.IsSound.isKeyed {table : Table} (h : table.IsSound) : table.IsKeyed :=
  ⟨h.ids, fun entry hentry => (h.stored entry hentry).id⟩

/-- Writing a record anew keeps its identifier. -/
theorem Rewrite.id?_eq {f : Entry → Document} (hf : Rewrite f) {entry : Entry} {id : String}
    (h : Record.id? entry.record = some id) : Record.id? (f entry) = some id := by
  cases hf with
  | patch actor stamp _ => exact id?_patched h stamp
  | delete stamp =>
    rwa [Record.id?, ← Record.get?_stampDeleted_of_ne stamp (by decide) (by decide)] at h

theorem Rewrite.isStored {f : Entry → Document} (hf : Rewrite f) {entry : Entry}
    (h : entry.IsStored) : Entry.IsStored { entry with record := f entry } := by
  have hid := hf.id?_eq h.id
  cases hf with
  | patch actor stamp hp =>
    exact ⟨hid, distinctKeys_patched h.distinctKeys hp stamp, Record.mem_keys_stampUpdated stamp⟩
  | delete stamp =>
    exact ⟨hid, Record.distinctKeys_stampDeleted stamp h.distinctKeys,
      Record.mem_keys_stampDeleted stamp⟩

namespace Table

variable {table table' : Table} {name : String}

/-- The record of an entry after the records of some entries were written anew. -/
def rewritten (f : Entry → Document) (entries : List Entry) (entry : Entry) : Document :=
  (Dict.get? (entries.map fun entry => (entry.id, f entry)) entry.id).getD entry.record

theorem nodup_ids_rewrite (h : table.ids.Nodup) {query : Query} {entries : List Entry}
    (hentries : entries.Sublist (table.found query)) : (entries.map (·.id)).Nodup :=
  (nodup_ids_found h).sublist (hentries.map (·.id))

theorem hasDistinctKeys_rewrite (f : Entry → Document) {entries : List Entry}
    (h : (entries.map (·.id)).Nodup) :
    Dict.HasDistinctKeys (entries.map fun entry => (entry.id, f entry)) := by
  rwa [Dict.HasDistinctKeys, Dict.keys, List.map_map]

theorem rewritten_of_mem (f : Entry → Document) {entries : List Entry} {entry : Entry}
    (h : (entries.map (·.id)).Nodup) (hmem : entry ∈ entries) :
    rewritten f entries entry = f entry := by
  have hget : Dict.get? (entries.map fun entry => (entry.id, f entry)) entry.id = some (f entry) :=
    (Dict.get?_eq_some_iff_mem (hasDistinctKeys_rewrite f h)).2 (List.mem_map.2 ⟨entry, hmem, rfl⟩)
  rw [rewritten, hget]
  rfl

theorem rewritten_of_not_mem (f : Entry → Document) (h : table.ids.Nodup) {entries : List Entry}
    {entry : Entry} (hsub : entries ⊆ table.entries) (hentry : entry ∈ table.entries)
    (hmem : entry ∉ entries) : rewritten f entries entry = entry.record := by
  have hget : Dict.get? (entries.map fun entry => (entry.id, f entry)) entry.id = none := by
    rw [Dict.get?_eq_none_iff]
    intro hkey
    obtain ⟨field, hfield, hid⟩ := List.mem_map.1 hkey
    obtain ⟨other, hother, rfl⟩ := List.mem_map.1 hfield
    exact hmem (table.entry_eq_of_id h (hsub hother) hentry hid ▸ hother)
  rw [rewritten, hget]
  rfl

/-- Writing the records of some entries anew finds each of them by its identifier. -/
theorem IsKeyed.eq_replaceAll (h : table.IsKeyed) {f : Entry → Document} (hf : Rewrite f)
    {query : Query} {entries : List Entry} (hentries : entries.Sublist (table.found query))
    (hreplace : Backend.replaceIn name table (entries.map f) = .ok table') :
    table' = table.replaceAll (entries.map fun entry => (entry.id, f entry)) := by
  obtain ⟨ids, hids, hreplaced⟩ := bind_eq_ok.1 hreplace
  cases hreplaced
  have hidsEq : ids = entries.map (·.id) := by
    rw [List.mapM_map] at hids
    refine eq_map_of_mapM_eq_ok hids fun entry hentry id hid => ?_
    have hkept := hf.id?_eq (h.keyed entry (mem_found (hentries.subset hentry)).1)
    change Backend.storedId name table (f entry) = .ok id at hid
    rw [Backend.storedId, hkept] at hid
    dsimp only at hid
    split at hid
    · exact (Except.ok.inj hid).symm
    · cases hid
  rw [hidsEq, List.zip_map']

theorem IsKeyed.replaceIn (h : table.IsKeyed) {f : Entry → Document} (hf : Rewrite f)
    {query : Query} {entries : List Entry} (hentries : entries.Sublist (table.found query))
    (hreplace : Backend.replaceIn name table (entries.map f) = .ok table') :
    table'.entries = table.entries.map fun entry =>
      { entry with record := rewritten f entries entry } := by
  rw [h.eq_replaceAll hf hentries hreplace,
    table.replaceAll_entries (hasDistinctKeys_rewrite f (nodup_ids_rewrite h.ids hentries))]
  rfl

/-- Records written anew are found. -/
theorem IsKeyed.exists_replaceIn (h : table.IsKeyed) {f : Entry → Document} (hf : Rewrite f)
    (name : String) {entries : List Entry} (hentries : entries ⊆ table.entries) :
    ∃ table', Backend.replaceIn name table (entries.map f) = .ok table' := by
  have hids : ∃ ids, (entries.map f).mapM (Backend.storedId name table) = .ok ids := by
    refine exists_mapM_eq_ok fun record hrecord => ?_
    obtain ⟨entry, hentry, rfl⟩ := List.mem_map.1 hrecord
    have hmem : entry.id ∈ table.ids := List.mem_map_of_mem (hentries hentry)
    have hid := hf.id?_eq (h.keyed entry (hentries hentry))
    exact ⟨entry.id, by simp [Backend.storedId, hid, hmem]⟩
  obtain ⟨ids, hids⟩ := hids
  exact ⟨_, bind_eq_ok.2 ⟨ids, hids, rfl⟩⟩

theorem IsKeyed.rewritten_cases (h : table.IsKeyed) (f : Entry → Document) {query : Query}
    {entries : List Entry} (hentries : entries.Sublist (table.found query)) {entry : Entry}
    (hentry : entry ∈ table.entries) :
    entry ∈ entries ∧ rewritten f entries entry = f entry ∨
      entry ∉ entries ∧ rewritten f entries entry = entry.record := by
  by_cases hmem : entry ∈ entries
  · exact .inl ⟨hmem, rewritten_of_mem f (nodup_ids_rewrite h.ids hentries) hmem⟩
  · have hsub : entries ⊆ table.entries := fun other hother =>
      (mem_found (hentries.subset hother)).1
    exact .inr ⟨hmem, rewritten_of_not_mem f h.ids hsub hentry hmem⟩

/-- The records written anew are told by their identifiers. -/
theorem IsKeyed.rewritten_eq (h : table.IsKeyed) (f : Entry → Document) {query : Query}
    {entries : List Entry} (hentries : entries.Sublist (table.found query)) {entry : Entry}
    (hentry : entry ∈ table.entries) :
    rewritten f entries entry =
      if entry.id ∈ entries.map (·.id) then f entry else entry.record := by
  rcases h.rewritten_cases f hentries hentry with ⟨hmem, e⟩ | ⟨hmem, e⟩
  · rw [e, if_pos (List.mem_map_of_mem hmem)]
  · rw [e, if_neg]
    intro hid
    obtain ⟨other, hother, hsame⟩ := List.mem_map.1 hid
    have hotherMem := (mem_found (hentries.subset hother)).1
    exact hmem (table.entry_eq_of_id h.ids hotherMem hentry hsame ▸ hother)

/-- What is true of a record, as it is and written anew, is true of it afterwards. -/
theorem IsKeyed.of_rewritten (h : table.IsKeyed) {f : Entry → Document} {query : Query}
    {entries : List Entry} (hentries : entries.Sublist (table.found query)) {entry : Entry}
    (hentry : entry ∈ table.entries) {P : Document → Prop} (hold : P entry.record)
    (hnew : P (f entry)) : P (rewritten f entries entry) := by
  rcases h.rewritten_cases f hentries hentry with ⟨-, e⟩ | ⟨-, e⟩
  · rwa [e]
  · rwa [e]

theorem ids_of_entries_eq {f : Entry → Document}
    (h : table'.entries = table.entries.map fun entry => { entry with record := f entry }) :
    table'.ids = table.ids := by
  rw [ids, h, List.map_map]
  rfl

/-- Each of the records written is in the table afterwards, and no identifier is new or lost. -/
theorem IsKeyed.mem_replaceIn (h : table.IsKeyed) {f : Entry → Document} (hf : Rewrite f)
    {query : Query} {entries : List Entry} (hentries : entries.Sublist (table.found query))
    (hreplace : Backend.replaceIn name table (entries.map f) = .ok table') :
    table'.ids = table.ids ∧
      ∀ entry ∈ entries, { entry with record := f entry } ∈ table'.entries := by
  have hentriesEq := h.replaceIn hf hentries hreplace
  refine ⟨ids_of_entries_eq hentriesEq, fun entry hentry => ?_⟩
  rw [hentriesEq, ← rewritten_of_mem f (nodup_ids_rewrite h.ids hentries) hentry]
  exact List.mem_map.2 ⟨entry, (mem_found (hentries.subset hentry)).1, rfl⟩

/-! ## New entries -/

theorem firstTaken?_eq_none {taken : List String} {entries : List Entry}
    (h : firstTaken? taken entries = none) :
    (entries.map (·.id)).Nodup ∧ ∀ entry ∈ entries, entry.id ∉ taken := by
  induction entries generalizing taken with
  | nil => exact ⟨List.nodup_nil, by simp⟩
  | cons entry rest ih =>
    rw [firstTaken?] at h
    split at h
    · cases h
    · rename_i hfree
      obtain ⟨hnodup, hrest⟩ := ih h
      rw [List.contains_iff_mem] at hfree
      refine ⟨List.nodup_cons.2 ⟨fun hmem => ?_, hnodup⟩, List.forall_mem_cons.2 ⟨hfree, ?_⟩⟩
      · obtain ⟨other, hother, hid⟩ := List.mem_map.1 hmem
        exact hrest other hother (hid ▸ List.mem_cons_self)
      · exact fun other hother htaken => hrest other hother (List.mem_cons_of_mem _ htaken)

theorem insertIn_eq_ok {entries : List Entry} :
    Backend.insertIn name table entries = .ok table' ↔
      firstTaken? table.ids entries = none ∧ table' = table.append entries := by
  unfold Backend.insertIn
  split
  · rename_i h
    simp [h]
  · rename_i h
    simp [h, eq_comm]

end Table

/-- Only the content of a record has to have the shape of its collection. -/
theorem Config.validate_congr (config : Config) {record record' : Document}
    (h : Record.content record = Record.content record') :
    config.validate record = config.validate record' := by
  unfold validate
  rw [h]

/-- The entry of a draft: its payload stamped, if it has the shape that the collection asks
for. -/
theorem Draft.toEntry_eq_ok {draft : Draft} {config : Config} {overrides : SortedDict Triple}
    {stamp : Stamp} {entry : Entry} (h : draft.toEntry config overrides stamp = .ok entry) :
    entry.id = draft.id ∧ entry.record = Record.stampCreated draft.payload draft.id stamp ∧
      config.validate entry.record = .ok () := by
  obtain ⟨⟨⟩, hvalid, h⟩ := bind_eq_ok.1 h
  cases h
  refine ⟨config.twin_id _ _ _, rfl, ?_⟩
  rw [← hvalid]
  exact config.validate_congr (Record.content_stampCreated stamp draft.id)

theorem Draft.isStored {draft : Draft} {config : Config} {overrides : SortedDict Triple}
    {stamp : Stamp} {entry : Entry} (h : draft.toEntry config overrides stamp = .ok entry)
    (hw : draft.payload.DistinctKeys) : entry.IsStored := by
  obtain ⟨hid, hrecord, -⟩ := toEntry_eq_ok h
  refine ⟨?_, ?_, ?_⟩
  · rw [hrecord, hid, Record.id?_stampCreated]
  · rw [hrecord]
    exact Record.distinctKeys_stampCreated stamp hw draft.id
  · rw [hrecord, Record.keys_stampCreated]
    exact List.mem_append_left _ (by decide)

/-! ## What is kept true -/

theorem Table.IsSound.step {table table' : Table} {name : String} {drafts : List Draft}
    (h : table.IsSound) (hstep : Table.Step name table drafts table') : table'.IsSound := by
  cases hstep with
  | @append config _ overrides stamp entries _ hw hentries hinsert =>
    obtain ⟨hfree, rfl⟩ := insertIn_eq_ok.1 hinsert
    obtain ⟨hnodup, hnew⟩ := firstTaken?_eq_none hfree
    constructor
    · rw [Table.ids, Table.append, List.map_append, List.nodup_append]
      refine ⟨h.ids, hnodup, ?_⟩
      rintro id hold _ hid rfl
      obtain ⟨entry, hentry, rfl⟩ := List.mem_map.1 hid
      exact hnew entry hentry hold
    · intro entry hentry
      rcases List.mem_append.1 hentry with hentry | hentry
      · exact h.stored entry hentry
      · obtain ⟨draft, hdraft, htoEntry⟩ := exists_of_mapM_eq_ok hentries hentry
        exact Draft.isStored htoEntry (hw draft hdraft)
  | rewrite hf hentries hreplace =>
    have heq := h.isKeyed.replaceIn hf hentries hreplace
    constructor
    · rw [ids_of_entries_eq heq]
      exact h.ids
    · intro entry hentry
      rw [heq] at hentry
      obtain ⟨old, hold, rfl⟩ := List.mem_map.1 hentry
      exact h.isKeyed.of_rewritten (P := fun record => Entry.IsStored { old with record }) hentries
        hold (h.stored old hold) (hf.isStored (h.stored old hold))

/-- A storage whose tables are all sound. -/
def Backend.IsSound (backend : Backend) : Prop :=
  ∀ name table, backend.tables.get? name = some table → table.IsSound

/-- In a reachable store every table is sound. -/
theorem Store.Reachable.isSound {store : Store} (h : store.Reachable) : store.backend.IsSound :=
  h.forall_tables Table.isSound_empty Table.IsSound.step

/-! ## Creating records -/

section

variable {store store' : Store} {config : Config} {actorId : String} {drafts : List Draft}
  {overrides : SortedDict Triple} {now : Int64} {outcome : Outcome} {draft : Draft}

theorem Store.Reachable.create (hr : store.Reachable)
    (hw : ∀ draft ∈ drafts, draft.payload.DistinctKeys)
    (h : exec (Store.create config actorId drafts overrides now) store = (.ok outcome, store')) :
    store'.Reachable := by
  have hnext : (Request.next store (.create config actorId drafts overrides now)).Reachable :=
    .next hr hw
  rwa [Request.next, h] at hnext

/-- The entry of each draft is in the table afterwards. -/
theorem exists_entry_of_create
    (h : exec (Store.create config actorId drafts overrides now) store = (.ok outcome, store'))
    (hdraft : draft ∈ drafts) :
    ∃ table entry, store'.backend.table? config.name = .ok table ∧ entry ∈ table.entries ∧
      draft.toEntry config overrides ⟨now, actorId⟩ = .ok entry := by
  obtain ⟨entries, table, table', hentries, -, hinsert, rfl, -⟩ := create_payload h
  obtain ⟨-, rfl⟩ := Table.insertIn_eq_ok.1 hinsert
  obtain ⟨entry, hentry, htoEntry⟩ := exists_result_of_mapM_eq_ok hentries hdraft
  exact ⟨_, entry, Backend.table?_withTable _ _ _, List.mem_append_right _ hentry, htoEntry⟩

end

end FieldGuard
