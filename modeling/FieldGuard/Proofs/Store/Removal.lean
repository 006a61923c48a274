import FieldGuard.Proofs.Store.Deletion
import FieldGuard.Proofs.Store.Registries
import Mathlib.Data.List.Induction

/-!
# Removal

A removal stamps the selected records that its actor may remove, and does nothing else, if each
record carries its own identifier (`remove_ok`). Nothing but removals deletes a record, and nothing
makes it live again. So a record is deleted exactly if a removal has stamped it since its collection
was set up (`Store.hasDeleted_after`), which later requests cannot undo.

* `Actor.MayRemove`: the actor holds the tokens that removing a record requires;
* `Table.stampedIds`, `remove_stamps`: the identifiers of the records that a removal stamps;
* `Request.Stamps`, `Store.Stamped`: a request stamps a record, and one of several requests does;
* `Store.Reachable.hasDeleted_next`: what one request does to the records that are deleted.
-/

namespace FieldGuard

open Document (flatten)

/-! ## Permission -/

/-- The actor holds every token that removal requires at a path of the twin which holds some leaf of
the record. The superadmin needs none. -/
def Actor.MayRemove (actor : Actor) (entry : Entry) : Prop :=
  match actor with
  | superadmin => True
  | member m => ∀ path triple, entry.permissions.get? path = some triple →
      (∃ leaf ∈ flatten entry.record, Path.isWithin leaf.1 path = true) →
        triple.remove ⊆ m.tokens

theorem Actor.mayRemove_iff {actor : Actor} {entry : Entry} :
    actor.MayRemove entry ↔ ∀ path ∈ actor.deniedPaths entry.permissions .remove,
      Document.holdsWithin (flatten entry.record) path = false := by
  cases actor with
  | superadmin => simp [MayRemove, deniedPaths]
  | member m =>
    constructor
    · intro h path hpath
      obtain ⟨triple, htriple, token, htoken, hlacks⟩ := Twin.mem_deniedPaths_iff.1 hpath
      by_contra hholds
      rw [Bool.not_eq_false] at hholds
      obtain ⟨key, hkey, hwithin⟩ := List.any_eq_true.1 hholds
      obtain ⟨leaf, hleaf, rfl⟩ := List.mem_map.1 hkey
      exact hlacks (h path triple htriple ⟨leaf, hleaf, hwithin⟩ htoken)
    · rintro h path triple htriple ⟨leaf, hleaf, hwithin⟩ token htoken
      by_contra hlacks
      have hfree := h path (Twin.mem_deniedPaths_iff.2 ⟨triple, htriple, token, htoken, hlacks⟩)
      have hholds : Document.holdsWithin (flatten entry.record) path = true :=
        List.any_eq_true.2 ⟨leaf.1, Dict.mem_keys_of_mem hleaf, hwithin⟩
      rw [hfree] at hholds
      cases hholds

theorem mem_removable {actor : Actor} {entries : List Entry} {entry : Entry} :
    entry ∈ removable actor entries ↔ entry ∈ entries ∧ actor.MayRemove entry := by
  have hopen : (!(actor.redactEntry .remove entry).isRestricted) = true ↔
      actor.restrictedPaths entry.permissions (flatten entry.record) .remove = [] := by
    simp [Redacted.isRestricted, Actor.redactEntry]
  rw [removable, List.mem_filter, hopen, Actor.restrictedPaths_eq_nil_iff, Actor.mayRemove_iff]

/-! ## Stamps -/

namespace Record

variable {record : Document} (stamp : Stamp)

/-- A deletion writes its stamp to two fields. -/
theorem get?_stampDeleted (key : String) :
    Dict.get? (stampDeleted record stamp) key =
      if key = updatedField ∨ key = deletedField then some stamp.toValue
      else Dict.get? record key := by
  by_cases hd : key = deletedField
  · rw [if_pos (.inr hd), hd, get?_stampDeleted_deleted]
  · rw [stampDeleted, Dict.get?_insert_of_ne _ _ hd]
    by_cases hu : key = updatedField
    · rw [if_pos (.inl hu), hu, Dict.get?_insert_self]
    · rw [if_neg (not_or.2 ⟨hu, hd⟩), Dict.get?_insert_of_ne _ _ hu]

theorem IsMarked.mem_keys (h : IsMarked record) : deletedField ∈ Dict.keys record := by
  cases h with
  | live h => exact Dict.mem_keys_iff_get?.2 ⟨_, h⟩
  | deleted h => exact Dict.mem_keys_iff_get?.2 ⟨_, h⟩

theorem keys_stampDeleted (hu : updatedField ∈ Dict.keys record) (h : IsMarked record) :
    Dict.keys (stampDeleted record stamp) = Dict.keys record := by
  rw [stampDeleted, Dict.keys_insert, Dict.keys_insert, if_pos hu, if_pos h.mem_keys]

end Record

/-! ## One removal -/

section

variable {store : Store} {config : Config} {actorId : String} {actor : Actor} {table : Table}

/-- A removal that knows its actor and its collection, and finds each record by its identifier,
stamps the selected records that the actor may remove. -/
theorem remove_ok (hkeyed : table.IsKeyed) (hactor : store.registry.resolve actorId = .ok actor)
    (htable : store.backend.table? config.name = .ok table) (query : Query) (now : Int64) :
    ∃ outcome table', exec (Store.remove config actorId query now) store =
        (.ok outcome, store.withTable config.name table') ∧
      table'.entries = table.entries.map fun entry =>
        { entry with
          record := Table.rewritten (fun entry => Record.stampDeleted entry.record ⟨now, actorId⟩)
            (removable actor (table.found query)) entry } := by
  have hrewrite : Rewrite fun entry => Record.stampDeleted entry.record ⟨now, actorId⟩ := .delete _
  have hremovable : removable actor (table.found query) ⊆ table.entries := fun entry hentry =>
    (Table.mem_found (mem_removable.1 hentry).1).1
  obtain ⟨table', htable'⟩ := hkeyed.exists_replaceIn hrewrite config.name hremovable
  have hrecords : ((removable actor (table.found query)).map
        (Change.removal actor ⟨now, actorId⟩)).map (·.record) =
      (removable actor (table.found query)).map fun entry =>
        Record.stampDeleted entry.record ⟨now, actorId⟩ := List.map_map
  rw [Store.exec_remove, hactor, ok_bind, htable, ok_bind]
  change ∃ outcome table', settle store (Backend.replaceIn config.name table
    (((removable actor (table.found query)).map (Change.removal actor ⟨now, actorId⟩)).map
      (·.record)) >>= _) = (.ok outcome, store.withTable config.name table') ∧ _
  rw [hrecords, htable', ok_bind]
  exact ⟨_, table', rfl, hkeyed.replaceIn hrewrite List.filter_sublist htable'⟩

/-- The identifiers of the records that a removal stamps. -/
def Table.stampedIds (table : Table) (actor : Actor) (query : Query) : List String :=
  (removable actor (table.found query)).map (·.id)

/-- What a removal makes of each record, by its identifier. -/
theorem remove_stamps (hkeyed : table.IsKeyed)
    (hactor : store.registry.resolve actorId = .ok actor)
    (htable : store.backend.table? config.name = .ok table) (query : Query) (now : Int64) :
    ∃ outcome table', exec (Store.remove config actorId query now) store =
        (.ok outcome, store.withTable config.name table') ∧
      table'.entries = table.entries.map fun entry =>
        { entry with
          record := if entry.id ∈ table.stampedIds actor query
            then Record.stampDeleted entry.record ⟨now, actorId⟩ else entry.record } := by
  obtain ⟨outcome, table', hexec, hentries⟩ := remove_ok hkeyed hactor htable query now
  refine ⟨outcome, table', hexec, hentries.trans (List.map_congr_left fun entry hentry => ?_)⟩
  rw [hkeyed.rewritten_eq _ (removable_sublist actor (table.found query)) hentry, Table.stampedIds]

end

/-! ## Deleted records -/

/-- A record of that identifier is in the table, deleted. -/
def Table.HasDeleted (table : Table) (id : String) : Prop :=
  ∃ entry ∈ table.entries, entry.id = id ∧ Record.isDeleted entry.record = true

/-- A record of that identifier is in the collection, deleted. -/
def Store.HasDeleted (store : Store) (name id : String) : Prop :=
  ∃ table, store.backend.tables.get? name = some table ∧ table.HasDeleted id

namespace Table

variable {table table' : Table} {id : String}

theorem not_hasDeleted_empty : ¬ Table.empty.HasDeleted id := by
  rintro ⟨entry, hentry, -⟩
  exact List.not_mem_nil hentry

theorem hasDeleted_append {entries : List Entry}
    (h : ∀ entry ∈ entries, Record.isDeleted entry.record = false) :
    (table.append entries).HasDeleted id ↔ table.HasDeleted id := by
  constructor
  · rintro ⟨entry, hentry, hid, hdeleted⟩
    rcases List.mem_append.1 hentry with hentry | hentry
    · exact ⟨entry, hentry, hid, hdeleted⟩
    · rw [h entry hentry] at hdeleted
      cases hdeleted
  · rintro ⟨entry, hentry, hdeleted⟩
    exact ⟨entry, List.mem_append_left _ hentry, hdeleted⟩

/-- Records that are written anew, some of which become deleted by that. -/
theorem hasDeleted_rewrite {f : Entry → Document} {P : Entry → Prop}
    (h : table'.entries = table.entries.map fun entry => { entry with record := f entry })
    (hf : ∀ entry ∈ table.entries,
      Record.isDeleted (f entry) = true ↔ Record.isDeleted entry.record = true ∨ P entry) :
    table'.HasDeleted id ↔
      table.HasDeleted id ∨ ∃ entry ∈ table.entries, entry.id = id ∧ P entry := by
  constructor
  · rintro ⟨_, hnew, hid, hdeleted⟩
    rw [h] at hnew
    obtain ⟨entry, hentry, rfl⟩ := List.mem_map.1 hnew
    rcases (hf entry hentry).1 hdeleted with hdeleted | hp
    · exact .inl ⟨entry, hentry, hid, hdeleted⟩
    · exact .inr ⟨entry, hentry, hid, hp⟩
  · intro hsome
    obtain ⟨entry, hentry, hid, hnew⟩ : ∃ entry ∈ table.entries, entry.id = id ∧
        (Record.isDeleted entry.record = true ∨ P entry) := by
      rcases hsome with ⟨entry, hentry, hid, hdeleted⟩ | ⟨entry, hentry, hid, hp⟩
      · exact ⟨entry, hentry, hid, .inl hdeleted⟩
      · exact ⟨entry, hentry, hid, .inr hp⟩
    have hmem : ({ entry with record := f entry } : Entry) ∈ table'.entries :=
      h ▸ List.mem_map_of_mem hentry
    exact ⟨_, hmem, hid, (hf entry hentry).2 hnew⟩

theorem hasDeleted_insertIn (id : String) {config : Config} {drafts : List Draft}
    {overrides : SortedDict Triple} {stamp : Stamp} {entries : List Entry} {name : String}
    (hentries : drafts.mapM (·.toEntry config overrides stamp) = .ok entries)
    (h : Backend.insertIn name table entries = .ok table') :
    table'.HasDeleted id ↔ table.HasDeleted id := by
  obtain ⟨-, rfl⟩ := insertIn_eq_ok.1 h
  refine hasDeleted_append fun entry hentry => ?_
  obtain ⟨draft, -, htoEntry⟩ := exists_of_mapM_eq_ok hentries hentry
  rw [(Draft.toEntry_eq_ok htoEntry).2.1]
  exact Record.isDeleted_stampCreated _ _

/-- No query selects a deleted record, unless it asks for deleted ones. -/
theorem not_mem_ids_select {query : Query} {entry : Entry} (h : table.ids.Nodup)
    (hquery : query.includeDeleted = false) (hentry : entry ∈ table.entries)
    (hdeleted : Record.isDeleted entry.record = true) :
    entry.id ∉ (table.select query).entries.map (·.id) := by
  rw [select_entries, List.map_map]
  intro hid
  obtain ⟨other, hother, hsame⟩ := List.mem_map.1 hid
  obtain ⟨hmem, hselects⟩ := mem_found hother
  obtain rfl := table.entry_eq_of_id h hmem hentry hsame
  simp [Query.selects, hquery, hdeleted] at hselects

variable {actor : Actor} {stamp : Stamp} {query : Query}

theorem IsSound.hasDeleted_patched (hs : table.IsSound) (id : String) (hm : table.IsMarked)
    {patch : Document} (h : table'.entries = table.entries.map fun entry =>
      { entry with
        record := rewritten (patched actor stamp patch) (changed actor patch (table.found query))
          entry }) :
    table'.HasDeleted id ↔ table.HasDeleted id := by
  have hchanged := changed_sublist actor patch (table.found query)
  rw [hasDeleted_rewrite (P := fun _ => False) h fun entry hentry => ?_]
  · simp
  · rw [or_false]
    refine hs.isKeyed.of_rewritten (P := fun record => Record.isDeleted record = true ↔ _)
      hchanged hentry Iff.rfl ?_
    rw [(isMarked_patched (hm entry hentry) stamp).2]

theorem IsSound.hasDeleted_removed (hs : table.IsSound)
    (h : table'.entries = table.entries.map fun entry =>
      { entry with
        record := rewritten (fun entry => Record.stampDeleted entry.record stamp)
          (removable actor (table.found query)) entry }) :
    table'.HasDeleted id ↔ table.HasDeleted id ∨
      ∃ entry ∈ table.found query, entry.id = id ∧ actor.MayRemove entry := by
  have hremovable := removable_sublist actor (table.found query)
  rw [hasDeleted_rewrite (P := (· ∈ removable actor (table.found query))) h fun entry hentry => ?_]
  · refine or_congr_right ⟨?_, ?_⟩
    · rintro ⟨entry, -, hid, hmem⟩
      obtain ⟨hfound, hmay⟩ := mem_removable.1 hmem
      exact ⟨entry, hfound, hid, hmay⟩
    · rintro ⟨entry, hfound, hid, hmay⟩
      exact ⟨entry, (mem_found hfound).1, hid, mem_removable.2 ⟨hfound, hmay⟩⟩
  · rcases hs.isKeyed.rewritten_cases (fun entry => Record.stampDeleted entry.record stamp)
      hremovable hentry with ⟨hmem, hnew⟩ | ⟨hmem, hsame⟩
    · simp [hnew, hmem, Record.isDeleted_stampDeleted]
    · simp [hsame, hmem]

end Table

/-- What becomes of one table becomes of its collection. -/
theorem Store.hasDeleted_withTable {store : Store} {other name id : String} {table table' : Table}
    {P : Prop} (htable : store.backend.table? other = .ok table)
    (h : table'.HasDeleted id ↔ table.HasDeleted id ∨ P) :
    (store.withTable other table').HasDeleted name id ↔
      store.HasDeleted name id ∨ other = name ∧ P := by
  rw [Backend.table?_eq_ok] at htable
  unfold HasDeleted
  rw [withTable, Backend.get?_withTable]
  by_cases hname : name = other
  · subst hname
    simp [htable, h]
  · simp [hname, Ne.symm hname]

/-! ## Requests -/

/-- The request is a removal, and the record of that identifier in the collection is one that its
query selects and its actor may remove. In a reachable store such a removal succeeds (`remove_ok`).
-/
def Request.Stamps (store : Store) (request : Request) (name id : String) : Prop :=
  match request with
  | remove config actorId query _ => config.name = name ∧ ∃ actor table entry,
      store.registry.resolve actorId = .ok actor ∧ store.backend.table? config.name = .ok table ∧
      entry ∈ table.found query ∧ entry.id = id ∧ actor.MayRemove entry
  | _ => False

section

variable {store : Store} {name id : String}

/-- A removal deletes what it stamps. -/
theorem Store.Reachable.hasDeleted_remove (hr : store.Reachable) (config : Config)
    (actorId : String) (query : Query) (now : Int64) :
    (Request.next store (.remove config actorId query now)).HasDeleted name id ↔
      store.HasDeleted name id ∨
        (Request.remove config actorId query now).Stamps store name id := by
  by_cases hknown : ∃ actor table, store.registry.resolve actorId = .ok actor ∧
      store.backend.table? config.name = .ok table
  · obtain ⟨actor, table, hactor, htable⟩ := hknown
    have hsound : table.IsSound := hr.isSound _ _ (Backend.table?_eq_ok.1 htable)
    obtain ⟨outcome, table', hexec, hentries⟩ := remove_ok hsound.isKeyed hactor htable query now
    rw [Request.next, hexec, hasDeleted_withTable htable (hsound.hasDeleted_removed hentries)]
    refine or_congr_right (and_congr_right fun _ => ?_)
    constructor
    · rintro ⟨entry, hfound, hid, hmay⟩
      exact ⟨actor, table, entry, hactor, htable, hfound, hid, hmay⟩
    · rintro ⟨_, _, entry, hactor', htable', hstamped⟩
      obtain rfl := Except.ok.inj (hactor.symm.trans hactor')
      obtain rfl := Except.ok.inj (htable.symm.trans htable')
      exact ⟨entry, hstamped⟩
  · have hstamps : ¬ (Request.remove config actorId query now).Stamps store name id := by
      rintro ⟨-, actor, table, entry, hactor, htable, -⟩
      exact hknown ⟨actor, table, hactor, htable⟩
    rcases exec_cases (store.exec_remove config actorId query now) with
      ⟨e, hexec⟩ | ⟨outcome, store', hexec⟩
    · rw [Request.next, hexec, or_iff_left hstamps]
    · obtain ⟨actor, table, table', hactor, htable, -⟩ := remove_payload hexec
      exact absurd ⟨actor, table, hactor, htable⟩ hknown

/-- Nothing but a removal deletes records. -/
theorem Store.Reachable.hasDeleted_of_not_remove (hr : store.Reachable) {request : Request}
    (hw : request.WellFormed)
    (hremove : ∀ config actorId query now, request ≠ .remove config actorId query now) :
    (request.next store).HasDeleted name id ↔
      request.dropped? ≠ some name ∧ store.HasDeleted name id := by
  have heffect := request.effect store
  generalize request.next store = store' at heffect ⊢
  cases heffect with
  | keep hdropped _ _ hbackend => simp [Store.HasDeleted, hbackend, hdropped]
  | @registerCollection config _ _ hbackend =>
    rcases hbackend with hbackend | ⟨hnew, hbackend⟩
    · simp [Store.HasDeleted, hbackend, Request.dropped?]
    · have hnone : store.backend.tables.get? config.name = none := by
        simpa [SortedDict.contains] using hnew
      rw [Store.HasDeleted, hbackend, Backend.get?_withTable]
      by_cases hname : name = config.name
      · subst hname
        simp [Store.HasDeleted, hnone, Table.not_hasDeleted_empty]
      · simp [Store.HasDeleted, hname, Request.dropped?]
  | dropNone h =>
    -- A collection that cannot be dropped has no table either.
    refine ⟨fun hdeleted => ⟨fun hname => ?_, hdeleted⟩, And.right⟩
    obtain rfl := Option.some.inj hname
    obtain ⟨table, htable, -⟩ := hdeleted
    obtain ⟨config, hconfig⟩ := hr.isRegistered htable
    simp [hconfig, htable] at h
  | @dropCollection other _ _ hbackend =>
    rw [Store.HasDeleted, hbackend, SortedDict.get?_erase]
    by_cases hname : name = other
    · simp [hname, Request.dropped?]
    · simp [hname, Request.dropped?, Store.HasDeleted, Ne.symm hname]
  | create _ hentries htable hinsert =>
    have hsame := Table.hasDeleted_insertIn id hentries hinsert
    rw [hasDeleted_withTable htable (hsame.trans (or_iff_left not_false).symm)]
    simp [Request.dropped?]
  | @update config actorId query patch now actor table table' htable hreplace =>
    have hname := Backend.table?_eq_ok.1 htable
    have hsound : table.IsSound := hr.isSound _ _ hname
    have hentries := hsound.isKeyed.replaceIn (.patch actor ⟨now, actorId⟩ hw)
      (changed_sublist actor patch (table.found query)) hreplace
    have hsame := hsound.hasDeleted_patched id (hr.isMarked hname) hentries
    rw [hasDeleted_withTable htable (hsame.trans (or_iff_left not_false).symm)]
    simp [Request.dropped?]
  | remove _ _ => exact absurd rfl (hremove _ _ _ _)

/-- The records that are deleted after a request: those before and the one that it stamps, if it
does not drop their collection. -/
theorem Store.Reachable.hasDeleted_next (hr : store.Reachable) {request : Request}
    (hw : request.WellFormed) :
    (request.next store).HasDeleted name id ↔ request.dropped? ≠ some name ∧
      (store.HasDeleted name id ∨ request.Stamps store name id) := by
  cases request with
  | remove config actorId query now =>
    rw [hr.hasDeleted_remove config actorId query now]
    exact (and_iff_right (Option.some_ne_none _).symm).symm
  | _ =>
    rw [hr.hasDeleted_of_not_remove hw fun _ _ _ _ => Request.noConfusion]
    simp only [Request.Stamps, or_false]

end

/-! ## Runs -/

/-- One of the requests, which a store serves one after the other, stamps the record of that
identifier in the collection, and none of those after it drops the collection. -/
def Store.Stamped (store : Store) (requests : List Request) (name id : String) : Prop :=
  ∃ earlier request later, requests = earlier ++ request :: later ∧
    request.Stamps (store.after earlier) name id ∧
    ∀ other ∈ later, other.dropped? ≠ some name

section

variable {store : Store} {requests : List Request} {name id : String}

theorem Request.Stamps.dropped? {request : Request} (h : request.Stamps store name id)
    (other : String) : request.dropped? ≠ some other := by
  cases request with
  | remove config actorId query now => exact (Option.some_ne_none _).symm
  | _ => cases h

/-- What requests stamp that end with a given one. -/
theorem Store.stamped_concat {request : Request} :
    store.Stamped (requests ++ [request]) name id ↔ request.dropped? ≠ some name ∧
      (store.Stamped requests name id ∨ request.Stamps (store.after requests) name id) := by
  have hdropped : request.Stamps (store.after requests) name id → request.dropped? ≠ some name :=
    fun h => h.dropped? name
  rw [and_or_left, and_iff_right_of_imp hdropped, or_comm]
  exact exists_split_concat
    (P := fun earlier (other : Request) => other.Stamps (store.after earlier) name id)

/-- A record is in its collection, deleted, exactly if a removal has stamped it since the collection
was set up. The induction takes the last request off. -/
theorem Store.hasDeleted_after (config : StoreConfig)
    (hw : ∀ request ∈ requests, request.WellFormed) :
    ((Store.empty config).after requests).HasDeleted name id ↔
      (Store.empty config).Stamped requests name id := by
  induction requests using List.reverseRecOn with
  | nil =>
    constructor
    · rintro ⟨table, htable, -⟩
      cases htable
    · rintro ⟨earlier, request, later, hrequests, -⟩
      exact absurd hrequests.symm (by simp)
  | append_singleton requests request ih =>
    obtain ⟨hinit, hlast⟩ := List.forall_mem_append.1 hw
    have hr : ((Store.empty config).after requests).Reachable := (Reachable.empty config).after hinit
    rw [after_append, after_cons, after_nil,
      hr.hasDeleted_next (List.forall_mem_singleton.1 hlast), ih hinit, stamped_concat]

theorem Store.Stamped.append (h : store.Stamped requests name id) {later : List Request}
    (hlater : ∀ request ∈ later, request.dropped? ≠ some name) :
    store.Stamped (requests ++ later) name id := by
  obtain ⟨earlier, request, between, rfl, hstamps, hbetween⟩ := h
  exact ⟨earlier, request, between ++ later, by simp, hstamps,
    List.forall_mem_append.2 ⟨hbetween, hlater⟩⟩

theorem Store.isDeleted_iff_stamped (config : StoreConfig)
    (hw : ∀ request ∈ requests, request.WellFormed) {table : Table} {entry : Entry}
    (htable : ((Store.empty config).after requests).backend.tables.get? name = some table)
    (hentry : entry ∈ table.entries) :
    Record.isDeleted entry.record = true ↔
      (Store.empty config).Stamped requests name entry.id := by
  have hsound : table.IsSound := ((Reachable.empty config).after hw).isSound _ _ htable
  rw [← hasDeleted_after config hw]
  constructor
  · intro hdeleted
    exact ⟨table, htable, entry, hentry, rfl, hdeleted⟩
  · rintro ⟨_, htable', other, hother, hid, hdeleted⟩
    obtain rfl := Option.some.inj (htable.symm.trans htable')
    exact table.entry_eq_of_id hsound.ids hother hentry hid ▸ hdeleted

/-- Later requests that leave the collection there leave a deleted record in it, deleted. -/
theorem Store.Stamped.hasDeleted_after {config : StoreConfig}
    (h : (Store.empty config).Stamped requests name id)
    (hw : ∀ request ∈ requests, request.WellFormed) {later : List Request}
    (hlater : ∀ request ∈ later, request.WellFormed ∧ request.dropped? ≠ some name) :
    (((Store.empty config).after requests).after later).HasDeleted name id := by
  have hall : ∀ request ∈ requests ++ later, request.WellFormed :=
    List.forall_mem_append.2 ⟨hw, fun request hrequest => (hlater request hrequest).1⟩
  rw [← after_append, Store.hasDeleted_after config hall]
  exact h.append fun request hrequest => (hlater request hrequest).2

end

/-- Removal is exact and permanent. In a store that requests lead to, a removal stamps the records
that its query selects and its actor may remove: one stamp of the actor and the time becomes the
value of two fields, and the names of the fields, their order and the values of the others stay.
All other records stay as they are. A record is deleted exactly if a removal has stamped it; it then
stays in its collection, deleted, whatever is requested later but to drop the collection, and no
query selects it that does not ask for deleted records. -/
theorem removal_exact_permanent (config : StoreConfig) {requests : List Request}
    (hw : ∀ request ∈ requests, request.WellFormed) :
    let store := (Store.empty config).after requests
    (∀ (config : Config) (actorId : String) (query : Query) (now : Int64) (outcome : Outcome)
        (store' : Store),
      exec (Store.remove config actorId query now) store = (.ok outcome, store') →
      ∃ (actor : Actor) (table table' : Table) (after : Entry → Document),
        store.registry.resolve actorId = .ok actor ∧
        store.backend.table? config.name = .ok table ∧
        store' = store.withTable config.name table' ∧
        table'.entries = table.entries.map (fun entry => { entry with record := after entry }) ∧
        ∀ entry ∈ table.entries,
          (entry ∈ table.found query ∧ actor.MayRemove entry →
            Dict.keys (after entry) = Dict.keys entry.record ∧
            ∀ key, Dict.get? (after entry) key =
              if key = Record.updatedField ∨ key = Record.deletedField then
                some (Stamp.toValue ⟨now, actorId⟩)
              else Dict.get? entry.record key) ∧
          (¬ (entry ∈ table.found query ∧ actor.MayRemove entry) →
            after entry = entry.record)) ∧
    ∀ name table entry, store.backend.table? name = .ok table → entry ∈ table.entries →
      (Record.isDeleted entry.record = true ↔
        (Store.empty config).Stamped requests name entry.id) ∧
      (Record.isDeleted entry.record = true → ∀ later : List Request,
        (∀ request ∈ later, request.WellFormed ∧ request.dropped? ≠ some name) →
          ∃ table' entry', (store.after later).backend.table? name = .ok table' ∧
            entry' ∈ table'.entries ∧ entry'.id = entry.id ∧
            Record.isDeleted entry'.record = true ∧
            ∀ query : Query, query.includeDeleted = false →
              entry.id ∉ (table'.select query).entries.map (·.id)) := by
  intro store
  have hr : store.Reachable := (Store.Reachable.empty config).after hw
  refine ⟨fun config actorId query now outcome store' hexec => ?_,
    fun name table entry htable hentry => ?_⟩
  · obtain ⟨actor, table, _, hactor, htable, -⟩ := remove_payload hexec
    have hname := Backend.table?_eq_ok.1 htable
    have hsound : table.IsSound := hr.isSound _ _ hname
    obtain ⟨outcome', table', hexec', hentries⟩ := remove_ok hsound.isKeyed hactor htable query now
    obtain ⟨-, hstore⟩ := Prod.mk.inj (hexec.symm.trans hexec')
    refine ⟨actor, table, table', _, hactor, htable, hstore, hentries, fun entry hentry => ?_⟩
    have hremovable := removable_sublist actor (table.found query)
    rw [← mem_removable]
    rcases hsound.isKeyed.rewritten_cases
      (fun entry => Record.stampDeleted entry.record ⟨now, actorId⟩) hremovable hentry with
      ⟨hmem, hnew⟩ | ⟨hmem, hsame⟩
    · rw [hnew]
      exact ⟨fun _ => ⟨Record.keys_stampDeleted _ (hsound.stored entry hentry).updated
        (hr.isMarked hname entry hentry), Record.get?_stampDeleted _⟩, absurd hmem⟩
    · exact ⟨fun h => absurd h hmem, fun _ => hsame⟩
  · have hname := Backend.table?_eq_ok.1 htable
    have hstamped := Store.isDeleted_iff_stamped config hw hname hentry
    refine ⟨hstamped, fun hdeleted later hlater => ?_⟩
    obtain ⟨table', htable', entry', hentry', hid, hdeleted'⟩ :=
      (hstamped.1 hdeleted).hasDeleted_after hw hlater
    have hr' := hr.after fun request hrequest => (hlater request hrequest).1
    refine ⟨table', entry', Backend.table?_eq_ok.2 htable', hentry', hid, hdeleted',
      fun query hquery => ?_⟩
    rw [← hid]
    exact Table.not_mem_ids_select (hr'.isSound _ _ htable').ids hquery hentry' hdeleted'

/-- Two records are removed by an actor that lacks the token which the second one's age requires. An
update then says that the first one is not deleted. -/
theorem removal_exact_permanent_bob :
    let config : Config :=
      { name := "people", overrides := SortedDict.empty.insert "age" { remove := ["hr"] } }
    let ann : Draft := ⟨"1", [("name", .string "Ann")]⟩
    let ben : Draft := ⟨"2", [("name", .string "Ben"), ("age", .int32 3)]⟩
    let requests : List Request := [.registerActor ⟨"bob", []⟩, .registerCollection config,
      .create config "superadmin" [ann, ben] .empty 1]
    let store := (Store.empty {}).after requests
    let removal : Request := .remove config "bob" {} 2
    let update : Request := .update config "superadmin" { includeDeleted := true }
      [("_deleted", .boolean false)] 3
    (∀ request ∈ requests, request.WellFormed) ∧ ∃ outcome store' table',
      exec (Store.remove config "bob" {} 2) store = (.ok outcome, store') ∧
      store' = store.withTable "people" table' ∧
      table'.entries.map (fun entry => Dict.get? entry.record Record.deletedField) =
        [some (Stamp.toValue ⟨2, "bob"⟩), some (.boolean false)] ∧
      (Store.empty {}).Stamped (requests ++ [removal]) "people" "1" ∧
      ¬ (Store.empty {}).Stamped (requests ++ [removal]) "people" "2" ∧
      ∃ table'' entry, (store'.after [update]).backend.table? "people" = .ok table'' ∧
        entry ∈ table''.entries ∧ entry.id = "1" ∧ Record.isDeleted entry.record = true := by
  intro config ann ben requests store removal update
  have hw : ∀ request ∈ requests, request.WellFormed := by
    simp [requests, ann, ben, Request.WellFormed, Document.DistinctKeys, Value.DistinctKeys,
      Value.FieldsDistinctKeys]
  have hok : (exec (Store.remove config "bob" {} 2) store).1.isOk = true := by
    simp only [store, requests, config, ann, ben]
    rw [Store.exec_remove]
    rfl
  rcases hexec : exec (Store.remove config "bob" {} 2) store with ⟨_ | outcome, store'⟩
  · rw [hexec] at hok
    cases hok
  obtain ⟨actor, table, table', after, hactor, htable, hstore', hentries, hafter⟩ :=
    (removal_exact_permanent {} hw).1 config "bob" {} 2 outcome store' hexec
  have hbob : store.registry.resolve "bob" = .ok (.member ⟨"bob", []⟩) := by
    simp only [store, requests, config, ann, ben]
    rfl
  obtain rfl := Except.ok.inj (hbob.symm.trans hactor)
  let stamps : Document := [("_created", Stamp.toValue ⟨1, "superadmin"⟩),
    ("_updated", Stamp.toValue ⟨1, "superadmin"⟩), ("_deleted", .boolean false)]
  let first : Entry := ⟨("_id", .string "1") :: stamps ++ ann.payload,
    config.twin "1" ["name"] .empty⟩
  let second : Entry := ⟨("_id", .string "2") :: stamps ++ ben.payload,
    config.twin "2" ["name", "age"] .empty⟩
  have htables : store.backend.table? config.name = .ok ⟨[first, second]⟩ := by
    simp only [store, requests, config, ann, ben, first, second, stamps]
    rfl
  obtain rfl := Except.ok.inj (htables.symm.trans htable)
  have hmay : (Actor.member ⟨"bob", []⟩).MayRemove first := by
    rw [Actor.mayRemove_iff]
    simp only [first, config]
    exact fun path hpath => absurd hpath List.not_mem_nil
  have hmayNot : ¬ (Actor.member ⟨"bob", []⟩).MayRemove second := by
    rw [Actor.mayRemove_iff]
    intro h
    have hage := h "age" (by simp only [second, config]; decide)
    simp only [second, stamps, ben] at hage
    cases hage
  have hfirst := ((hafter first List.mem_cons_self).1 ⟨List.mem_cons_self, hmay⟩).2
    Record.deletedField
  have hsecond := (hafter second (by simp)).2 fun h => hmayNot h.2
  have hw' : ∀ request ∈ requests ++ [removal], request.WellFormed :=
    List.forall_mem_append.2 ⟨hw, List.forall_mem_singleton.2 trivial⟩
  have hafter' : (Store.empty {}).after (requests ++ [removal]) = store' := by
    rw [Store.after_append, Store.after_cons, Store.after_nil, Request.next]
    exact congrArg Prod.snd hexec
  have htable' : store'.backend.table? "people" = .ok table' :=
    hstore' ▸ Backend.table?_withTable _ _ _
  have hboth := (removal_exact_permanent {} hw').2 "people" table'
  rw [hafter', hentries] at hboth
  have hdeleted : Record.isDeleted (after first) = true := Record.isDeleted_of_document hfirst
  have hfirstId : Entry.id { first with record := after first } = "1" :=
    config.twin_id "1" ["name"] .empty
  have hsecondId : Entry.id { second with record := after second } = "2" :=
    config.twin_id "2" ["name", "age"] .empty
  obtain ⟨hstamped, hstays⟩ := hboth { first with record := after first } htable'
    List.mem_cons_self
  obtain ⟨hlive, -⟩ := hboth { second with record := after second } htable'
    (List.mem_cons_of_mem _ List.mem_cons_self)
  rw [hfirstId] at hstamped hstays
  rw [hsecondId, hsecond] at hlive
  have hupdate : update.WellFormed := by
    simp [update, Request.WellFormed, Document.DistinctKeys, Value.DistinctKeys,
      Value.FieldsDistinctKeys]
  obtain ⟨table'', entry, htable'', hentry, hid, hdeleted', -⟩ := hstays hdeleted [update]
    (List.forall_mem_singleton.2 ⟨hupdate, (Option.some_ne_none _).symm⟩)
  refine ⟨hw, outcome, store', table', rfl, hstore', ?_, hstamped.1 hdeleted, fun h => ?_,
    table'', entry, htable'', hentry, hid, hdeleted'⟩
  · rw [hentries]
    simp only [List.map_cons, List.map_nil, hfirst, hsecond]
    rfl
  · cases hlive.2 h

end FieldGuard
