import FieldGuard.Proofs.Store.Update

/-!
# Updates as edits of leaves

What an update does to an entry comes down to what it makes of each leaf (`Edit.replace`): the leaf
itself, unless the query selects the entry and the actor may put something of the patch in the
leaf's place. What the next update looks at, it finds as it was, as long as its query selects by
identifiers and by whether a record is deleted.

* `Edit.isEdit_replace`: leaves come in the place of leaves, plain ones of plain ones, and the
  store's own fields stay;
* `Entry.IsEdited.selects_eq`, `Entry.IsEdited.patches_iff`, `Entry.IsEdited.replace_eq`: so an
  update selects the same entries and makes the same of their leaves after others as before;
* `Edit.after_cases`, `Edit.same_after`: the record of an entry after an update;
* `Edit.succeeds_iff`: an update succeeds if the records that it writes are valid.
-/

namespace FieldGuard

open Document (DotFree DistinctKeys branches flatten leaf? mapLeaves walk?)

/-- A query that restricts by identifiers and by whether a record is deleted, and by nothing
else. -/
structure Query.RestrictsByIds (query : Query) : Prop where
  filter : query.filter = none
  limit : query.limit = none
  offset : query.offset = none

/-! ## What may become of leaves -/

/-- What an update may make of the leaves of a record: leaves of leaves, plain ones of plain ones,
and of those of the store's own fields themselves. -/
structure Record.IsEdit (f : List String → Value → Value) : Prop where
  isLeaf : ∀ names leaf, leaf.isLeaf = true → (f names leaf).isLeaf = true
  isPlain : ∀ names leaf, (f names leaf).isPlain = leaf.isPlain
  system : ∀ key names leaf, Record.isSystemField key = true → f (key :: names) leaf = leaf

/-- A patch has nothing for the store's own fields. -/
theorem Actor.replacement?_system (actor : Actor) (patch : Document) (twin : Twin) {key : String}
    (hkey : Record.isSystemField key = true) (names : List String) (leaf : Value) :
    actor.replacement? patch twin (key :: names) leaf = none := by
  have hnone : Dict.get? (Record.content patch) key = none := by
    rw [Dict.get?_eq_none_iff, Record.mem_keys_content]
    rintro ⟨-, hcontent⟩
    rw [hkey] at hcontent
    cases hcontent
  rw [replacement?, Document.walk?_cons, hnone]
  rfl

theorem Actor.replacement?_congr (actor : Actor) (patch : Document) (twin : Twin)
    (names : List String) {leaf leaf' : Value} (h : leaf.isPlain = leaf'.isPlain) :
    actor.replacement? patch twin names leaf = actor.replacement? patch twin names leaf' := by
  rw [replacement?, replacement?, h]

/-- Whether a patch replaces some leaf is decided by the content of the record. -/
theorem patches_iff_content {actor : Actor} {patch : Document} {entry : Entry} :
    Patches actor patch entry ↔ ∃ leaf ∈ branches (Record.content entry.record),
      (actor.replacement? patch entry.permissions leaf.1 leaf.2).isSome = true := by
  constructor
  · rintro ⟨leaf, hleaf, hsome⟩
    obtain ⟨key, value, inner, hmem, hinner, rfl⟩ := Document.exists_mem_of_mem_branches hleaf
    cases hsystem : Record.isSystemField key with
    | true =>
      rw [actor.replacement?_system patch entry.permissions hsystem] at hsome
      cases hsome
    | false =>
      have hcontent : (key, value) ∈ Record.content entry.record :=
        List.mem_filter.2 ⟨hmem, by rw [hsystem]; rfl⟩
      exact ⟨_, Document.mem_branches_of_mem hcontent hinner, hsome⟩
  · rintro ⟨leaf, hleaf, hsome⟩
    exact ⟨leaf, Record.branches_content_subset _ hleaf, hsome⟩

/-! ## Entries before and after updates -/

/-- The entry as it may stand after some updates: under its own twin, with leaves replaced. -/
structure Entry.IsEdited (entry other : Entry) : Prop where
  permissions : other.permissions = entry.permissions
  record : ∃ f, Record.IsEdit f ∧ Record.SameButUpdated other.record (mapLeaves f entry.record)

namespace Entry.IsEdited

variable {entry other : Entry} (h : entry.IsEdited other)

include h

theorem selects_eq {query : Query} (hquery : query.RestrictsByIds) :
    query.selects other = query.selects entry := by
  obtain ⟨f, hf, hrecord⟩ := h.record
  have hdeleted : Record.isDeleted other.record = Record.isDeleted entry.record := by
    refine Record.isDeleted_congr ?_
    have hstays : Value.mapLeaves (fun names => f (Record.deletedField :: names)) =
        fun value => value := funext fun value => Document.mapLeaves_eq_self_value
      fun branch _ => hf.system Record.deletedField branch.1 branch.2 (by decide)
    rw [hrecord.get?_eq (by decide), Document.get?_mapLeaves, hstays, Option.map_id_fun']
    rfl
  rw [Query.selects, Query.selects, hdeleted, Entry.id, Entry.id, h.permissions, hquery.filter]
  rfl

theorem patches_iff {actor : Actor} {patch : Document} :
    Patches actor patch other ↔ Patches actor patch entry := by
  obtain ⟨f, hf, hrecord⟩ := h.record
  have hbranches : branches (Record.content other.record) =
      (branches (Record.content entry.record)).map fun branch =>
        (branch.1, f branch.1 branch.2) := by
    rw [hrecord.content_eq, Record.content_mapLeaves, Document.branches_mapLeaves hf.isLeaf]
  rw [patches_iff_content, patches_iff_content, hbranches, h.permissions]
  simp only [List.mem_map, exists_exists_and_eq_and]
  refine exists_congr fun leaf => and_congr_right fun _ => ?_
  rw [actor.replacement?_congr patch _ _ (hf.isPlain leaf.1 leaf.2)]

end Entry.IsEdited

/-! ## Edits -/

/-- An update by an actor that is known: which entries it is about, what it writes into them and
how it stamps them. -/
structure Edit where
  actor : Actor
  stamp : Stamp
  query : Query
  patch : Document

namespace Edit

variable (edit : Edit)

/-- What the update makes of a leaf of an entry. -/
def replace (entry : Entry) (names : List String) (leaf : Value) : Value :=
  if edit.query.selects entry = true then
    (edit.actor.replacement? edit.patch entry.permissions names leaf).getD leaf
  else leaf

/-- Whether the update writes an entry: it selects it and replaces some leaf. -/
def Writes (entry : Entry) : Prop :=
  edit.query.selects entry = true ∧ Patches edit.actor edit.patch entry

/-- The record of an entry of a table after the update. -/
def after (table : Table) (entry : Entry) : Document :=
  table.afterUpdate edit.actor edit.stamp edit.query edit.patch entry

theorem isEdit_replace (entry : Entry) : Record.IsEdit (edit.replace entry) := by
  cases hselects : edit.query.selects entry with
  | false =>
    have hid : edit.replace entry = fun _ leaf => leaf := by
      funext names leaf
      rw [replace, hselects, if_neg Bool.false_ne_true]
    rw [hid]
    exact ⟨fun _ _ hleaf => hleaf, fun _ _ => rfl, fun _ _ _ _ => rfl⟩
  | true =>
    have hreplace : edit.replace entry = fun names leaf =>
        (edit.actor.replacement? edit.patch entry.permissions names leaf).getD leaf := by
      funext names leaf
      rw [replace, hselects, if_pos rfl]
    rw [hreplace]
    refine ⟨edit.actor.isLeaf_replace edit.patch entry.permissions, fun names leaf => ?_,
      fun key names leaf hkey => ?_⟩
    · cases hnew : edit.actor.replacement? edit.patch entry.permissions names leaf with
      | none => rfl
      | some new =>
        obtain ⟨-, hnew, hleaf, -⟩ := replacement?_eq_some.1 hnew
        exact hnew.trans hleaf.symm
    · rw [edit.actor.replacement?_system edit.patch entry.permissions hkey]
      rfl

theorem mapLeaves_replace {entry : Entry} (h : edit.query.selects entry = true) :
    mapLeaves (edit.replace entry) entry.record = replaced edit.actor edit.patch entry := by
  refine Document.mapLeaves_congr fun branch _ => ?_
  rw [replace, if_pos h]

/-- An update that does not write an entry replaces none of its leaves. -/
theorem mapLeaves_replace_of_not_writes {entry : Entry} (h : ¬ edit.Writes entry) :
    mapLeaves (edit.replace entry) entry.record = entry.record := by
  refine Document.mapLeaves_eq_self fun branch hbranch => ?_
  unfold replace
  split
  · rename_i hselects
    cases hnew : edit.actor.replacement? edit.patch entry.permissions branch.1 branch.2 with
    | none => rfl
    | some new => exact absurd ⟨hselects, branch, hbranch, by rw [hnew]; rfl⟩ h
  · rfl

theorem mapLeaves_replace_cases (entry : Entry) :
    mapLeaves (edit.replace entry) entry.record = replaced edit.actor edit.patch entry ∨
      mapLeaves (edit.replace entry) entry.record = entry.record := by
  by_cases hselects : edit.query.selects entry = true
  · exact .inl (edit.mapLeaves_replace hselects)
  · exact .inr (edit.mapLeaves_replace_of_not_writes fun hwrites => hselects hwrites.1)

variable {edit}

/-- An update makes the same of the leaves of an entry after others as before. -/
theorem replace_eq {entry other : Entry} (h : entry.IsEdited other)
    (hquery : edit.query.RestrictsByIds) : edit.replace other = edit.replace entry := by
  funext names leaf
  rw [replace, replace, h.selects_eq hquery, h.permissions]

theorem writes_iff {entry other : Entry} (h : entry.IsEdited other)
    (hquery : edit.query.RestrictsByIds) : edit.Writes other ↔ edit.Writes entry := by
  rw [Writes, Writes, h.selects_eq hquery, h.patches_iff]

/-! ## Tables after an update -/

/-- What is assumed of an update and the table it is about: the table is one of a reachable store
and its records have no dots in names, the query restricts by identifiers only, and the patch is an
ordered dictionary. -/
structure Suits (edit : Edit) (table : Table) : Prop where
  sound : table.IsSound
  dotFree : ∀ entry ∈ table.entries, DotFree entry.record
  query : edit.query.RestrictsByIds
  patch : DistinctKeys edit.patch

section

variable {table : Table} {entry : Entry} (h : edit.Suits table) (hentry : entry ∈ table.entries)

include h hentry

theorem Suits.distinctKeys : DistinctKeys entry.record :=
  (h.sound.stored entry hentry).distinctKeys

theorem mem_changed_iff :
    entry ∈ changed edit.actor edit.patch (table.found edit.query) ↔ edit.Writes entry := by
  have hpatches : permitted edit.actor edit.patch entry ≠ [] ↔
      Patches edit.actor edit.patch entry :=
    permitted_ne_nil_iff (h.dotFree entry hentry) (h.distinctKeys hentry)
  rw [mem_changed, Table.mem_found_of_unlimited h.query.limit h.query.offset,
    and_iff_right hentry, hpatches, Writes]

theorem patched_eq_of_writes (hwrites : edit.Writes entry) :
    patched edit.actor edit.stamp edit.patch entry =
      Record.stampUpdated (mapLeaves (edit.replace entry) entry.record) edit.stamp := by
  rw [patched_eq (h.dotFree entry hentry) (h.distinctKeys hentry) h.patch,
    edit.mapLeaves_replace hwrites.1]

/-- An entry that is written has its leaves replaced and is stamped, and another one stays. -/
theorem after_cases :
    edit.Writes entry ∧ edit.after table entry =
        Record.stampUpdated (mapLeaves (edit.replace entry) entry.record) edit.stamp ∨
      ¬ edit.Writes entry ∧ edit.after table entry = entry.record := by
  rcases h.sound.isKeyed.afterUpdate_cases edit.actor edit.stamp edit.query edit.patch hentry with
    ⟨hmem, hafter⟩ | ⟨hmem, hafter⟩
  · have hwrites := (mem_changed_iff h hentry).1 hmem
    exact .inl ⟨hwrites, hafter.trans (patched_eq_of_writes h hentry hwrites)⟩
  · exact .inr ⟨fun hwrites => hmem ((mem_changed_iff h hentry).2 hwrites), hafter⟩

/-- Either way the record is the one with leaves replaced, but for its stamp. -/
theorem same_after :
    Record.SameButUpdated (edit.after table entry)
      (mapLeaves (edit.replace entry) entry.record) := by
  rcases after_cases h hentry with ⟨-, hafter⟩ | ⟨hwrites, hafter⟩
  · rw [hafter]
    exact .of_stamp _ _
  · rw [hafter, edit.mapLeaves_replace_of_not_writes hwrites]
    exact .refl _

theorem isEdited_after : entry.IsEdited { entry with record := edit.after table entry } :=
  ⟨rfl, edit.replace entry, edit.isEdit_replace entry, same_after h hentry⟩

theorem dotFree_mapLeaves_replace : DotFree (mapLeaves (edit.replace entry) entry.record) := by
  rcases edit.mapLeaves_replace_cases entry with hrecord | hrecord <;> rw [hrecord]
  · exact dotFree_replaced (h.dotFree entry hentry)
  · exact h.dotFree entry hentry

theorem distinctKeys_mapLeaves_replace :
    DistinctKeys (mapLeaves (edit.replace entry) entry.record) := by
  rcases edit.mapLeaves_replace_cases entry with hrecord | hrecord <;> rw [hrecord]
  · exact distinctKeys_replaced (h.dotFree entry hentry) (h.distinctKeys hentry) h.patch
  · exact h.distinctKeys hentry

theorem dotFree_after : DotFree (edit.after table entry) := by
  rcases after_cases h hentry with ⟨-, hafter⟩ | ⟨-, hafter⟩ <;> rw [hafter]
  · exact Record.dotFree_stampUpdated _ (dotFree_mapLeaves_replace h hentry)
  · exact h.dotFree entry hentry

theorem distinctKeys_after : DistinctKeys (edit.after table entry) := by
  rcases after_cases h hentry with ⟨-, hafter⟩ | ⟨-, hafter⟩ <;> rw [hafter]
  · exact Record.distinctKeys_stampUpdated _ (distinctKeys_mapLeaves_replace h hentry)
  · exact h.distinctKeys hentry

/-- The leaf at a path after the update, outside of the stamp. -/
theorem leaf?_after {path : String} (houtside : Path.isWithin path Record.updatedField = false) :
    leaf? (edit.after table entry) path =
      (leaf? entry.record path).map (edit.replace entry (Path.segments path)) := by
  rw [(same_after h hentry).leaf?_eq (dotFree_after h hentry) (distinctKeys_after h hentry)
    (dotFree_mapLeaves_replace h hentry) (distinctKeys_mapLeaves_replace h hentry) houtside]
  exact Document.leaf?_mapLeaves (edit.isEdit_replace entry).isLeaf (h.dotFree entry hentry)
    (h.distinctKeys hentry) path

end

end Edit

/-! ## Running an update -/

/-- The table with the record of each entry written anew. -/
def Table.withRecords (table : Table) (f : Entry → Document) : Table :=
  ⟨table.entries.map fun entry => { entry with record := f entry }⟩

/-- After an update the table is as another one assumes it before. -/
theorem Edit.Suits.after {a b : Edit} {table : Table} (ha : a.Suits table) (hb : b.Suits table) :
    b.Suits (table.withRecords (a.after table)) := by
  refine ⟨⟨?_, fun entry hentry => ?_⟩, fun entry hentry => ?_, hb.query, hb.patch⟩
  · have hids : (table.withRecords (a.after table)).ids = table.ids :=
      Table.ids_of_entries_eq (f := a.after table) rfl
    rw [hids]
    exact ha.sound.ids
  · obtain ⟨old, hold, rfl⟩ := List.mem_map.1 hentry
    have hstored := ha.sound.stored old hold
    have hrewrite : Rewrite (patched a.actor a.stamp a.patch) := .patch a.actor a.stamp ha.patch
    exact ha.sound.isKeyed.of_rewritten (P := fun record => Entry.IsStored { old with record })
      (changed_sublist _ _ _) hold hstored (hrewrite.isStored hstored)
  · obtain ⟨old, hold, rfl⟩ := List.mem_map.1 hentry
    exact dotFree_after ha hold

/-- The records that an update writes have the shape that a configuration asks for. -/
def Edit.WritesValid (edit : Edit) (config : Config) (table : Table) : Prop :=
  ∀ entry ∈ table.entries, edit.Writes entry →
    config.validate (mapLeaves (edit.replace entry) entry.record) = .ok ()

theorem Edit.writesValid_iff {edit : Edit} {table : Table} (h : edit.Suits table)
    (config : Config) :
    edit.WritesValid config table ↔
      ∀ entry ∈ changed edit.actor edit.patch (table.found edit.query),
        config.validate (patched edit.actor edit.stamp edit.patch entry) = .ok () := by
  have hwritten : ∀ entry ∈ table.entries, edit.Writes entry →
      config.validate (patched edit.actor edit.stamp edit.patch entry) =
        config.validate (mapLeaves (edit.replace entry) entry.record) := by
    intro entry hentry hwrites
    rw [patched_eq_of_writes h hentry hwrites]
    exact config.validate_congr (Record.content_stampUpdated _)
  constructor
  · intro hvalid entry hmem
    have hentry := (Table.mem_found ((changed_sublist _ _ _).subset hmem)).1
    have hwrites := (mem_changed_iff h hentry).1 hmem
    rw [hwritten entry hentry hwrites]
    exact hvalid entry hentry hwrites
  · intro hvalid entry hentry hwrites
    rw [← hwritten entry hentry hwrites]
    exact hvalid entry ((mem_changed_iff h hentry).2 hwrites)

/-- The update, as the store runs it. -/
def Edit.run (edit : Edit) (config : Config) : Store.Action Outcome :=
  Store.update config edit.stamp.actor edit.query edit.patch edit.stamp.time

/-- An update succeeds if the records that it writes have the shape of their collection. Then it
puts the record of each entry after it in its place. -/
theorem Edit.succeeds_iff {edit : Edit} {store store' : Store} {config : Config} {table : Table}
    (hactor : store.registry.resolve edit.stamp.actor = .ok edit.actor)
    (htable : store.backend.table? config.name = .ok table) (h : edit.Suits table) :
    (∃ outcome, exec (edit.run config) store = (.ok outcome, store')) ↔
      edit.WritesValid config table ∧
      store' = store.withTable config.name (table.withRecords (edit.after table)) := by
  have hsucceeds : edit.WritesValid config table → ∃ outcome, exec (edit.run config) store =
      (.ok outcome, store.withTable config.name (table.withRecords (edit.after table))) := by
    intro hvalid
    obtain ⟨outcome, ⟨entries⟩, hexec, hentries⟩ :=
      update_ok h.sound.isKeyed h.patch hactor htable ((writesValid_iff h config).1 hvalid)
    obtain rfl : entries = _ := hentries
    exact ⟨outcome, hexec⟩
  constructor
  · rintro ⟨outcome, hexec⟩
    have hvalid := (writesValid_iff h config).2 (update_valid hexec hactor htable)
    obtain ⟨outcome', hexec'⟩ := hsucceeds hvalid
    exact ⟨hvalid, congrArg Prod.snd (hexec.symm.trans hexec')⟩
  · rintro ⟨hvalid, rfl⟩
    exact hsucceeds hvalid

/-- An update that writes every entry of its table with valid records stamps all of them. -/
theorem Edit.succeeds_of_writes {edit : Edit} {store : Store} {config : Config} {table : Table}
    (hactor : store.registry.resolve edit.stamp.actor = .ok edit.actor)
    (htable : store.backend.table? config.name = .ok table) (h : edit.Suits table)
    (hwrites : ∀ entry ∈ table.entries, edit.Writes entry)
    (hvalid : ∀ entry ∈ table.entries,
      config.validate (mapLeaves (edit.replace entry) entry.record) = .ok ()) :
    ∃ outcome, exec (edit.run config) store =
      (.ok outcome, store.withTable config.name (table.withRecords fun entry =>
        Record.stampUpdated (mapLeaves (edit.replace entry) entry.record) edit.stamp)) := by
  refine (succeeds_iff hactor htable h).2 ⟨fun entry hentry _ => hvalid entry hentry, ?_⟩
  have hafter : ∀ entry ∈ table.entries,
      Record.stampUpdated (mapLeaves (edit.replace entry) entry.record) edit.stamp =
        edit.after table entry := by
    intro entry hentry
    rcases after_cases h hentry with ⟨-, hafter⟩ | ⟨hnot, -⟩
    · exact hafter.symm
    · exact absurd (hwrites entry hentry) hnot
  rw [Table.withRecords, Table.withRecords,
    List.map_congr_left fun entry hentry => by rw [hafter entry hentry]]

end FieldGuard
