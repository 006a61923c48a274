import FieldGuard.Proofs.Permission.Exactness
import FieldGuard.Proofs.Store.Sound

/-!
# Reading back what was written

What a removal or an update returns of a record is what reading the record returns afterwards; of
an updated record, less what the actor may not update (`write_reads_back`). The documents returned
are redacted on their own, and twice after an update: first by the paths withheld from the update,
looked for in the record as it was, then by those withheld from reading, looked for in what is left.

* `agreesBut_patched`: a patch changes no name, nor the order of names, in a record without dots in
  names;
* `dotFree_patched_iff`: and it takes no dots out of names or puts them in;
* `patchChange_view`: the two redactions of an updated record come to one of what is read.
-/

namespace FieldGuard

open Document (AgreesBut DotFree DistinctKeys branches flatten holdsWithin isOutside prune redact)

/-! ## Stamps of the last change -/

/-- The record has a stamp of its last change. -/
def Record.IsDated (record : Document) : Prop :=
  ∃ stamp : Stamp, Dict.get? record updatedField = some stamp.toValue

/-- Every record of the table has a stamp of its last change. -/
def Table.IsDated (table : Table) : Prop :=
  ∀ entry ∈ table.entries, Record.IsDated entry.record

theorem Rewrite.isDated {f : Entry → Document} (hf : Rewrite f) (entry : Entry) :
    Record.IsDated (f entry) := by
  cases hf with
  | patch actor stamp _ => exact ⟨stamp, Dict.get?_insert_self _ _ _⟩
  | delete stamp =>
    exact ⟨stamp, (Dict.get?_insert_of_ne _ _ (by decide)).trans (Dict.get?_insert_self _ _ _)⟩

theorem Table.IsDated.step {table table' : Table} {name : String} {drafts : List Draft}
    (h : table.IsDated) (hs : table.IsSound) (hstep : Table.Step name table drafts table') :
    table'.IsDated := by
  intro entry hentry
  cases hstep with
  | @append _ _ _ stamp _ _ _ hentries hinsert =>
    obtain ⟨-, rfl⟩ := Table.insertIn_eq_ok.1 hinsert
    rcases List.mem_append.1 hentry with hentry | hentry
    · exact h entry hentry
    · obtain ⟨draft, -, htoEntry⟩ := exists_of_mapM_eq_ok hentries hentry
      rw [(Draft.toEntry_eq_ok htoEntry).2.1]
      exact ⟨stamp, rfl⟩
  | rewrite hf hentries hreplace =>
    rw [hs.isKeyed.replaceIn hf hentries hreplace] at hentry
    obtain ⟨old, hold, rfl⟩ := List.mem_map.1 hentry
    exact hs.isKeyed.of_rewritten (P := Record.IsDated) hentries hold (h old hold) (hf.isDated old)

theorem Store.Reachable.isDated {store : Store} (hr : store.Reachable) {name : String}
    {table : Table} (htable : store.backend.tables.get? name = some table) : table.IsDated := by
  have h := hr.forall_tables (P := fun table => table.IsSound ∧ table.IsDated)
    ⟨Table.isSound_empty, fun _ hentry => absurd hentry List.not_mem_nil⟩
    fun h hstep => ⟨h.1.step hstep, h.2.step h.1 hstep⟩
  exact (h name table htable).2

/-! ## Names in patched records -/

section

variable {actor : Actor} {patch : Document} {entry : Entry}

/-- A patch puts plain values in the place of plain values, and its stamp in the place of a
stamp. -/
theorem agreesBut_patched (hfree : DotFree entry.record) (hd : DistinctKeys entry.record)
    (hp : DistinctKeys patch) (hdated : Record.IsDated entry.record) (stamp : Stamp) :
    AgreesBut (fun _ => True) entry.record (patched actor stamp patch entry) := by
  obtain ⟨old, hold⟩ := hdated
  have hreplaced := agreesBut_replaced actor patch entry
  have hstamps : Value.AgreesBut (fun _ => True) old.toValue stamp.toValue :=
    ⟨rfl, .inr ⟨rfl, rfl, trivial⟩, rfl, .inr ⟨rfl, rfl, trivial⟩, trivial⟩
  have hstamped := (Document.agreesBut_iff.1 hreplaced).insert Record.updatedField hstamps
  rw [Dict.insert_eq_self hold] at hstamped
  rw [patched_eq hfree hd hp]
  exact Document.agreesBut_iff.2 hstamped

/-- A patch writes no plain value over a document. -/
theorem keepsDocuments_permitted :
    Document.KeepsDocuments entry.record (permitted actor patch entry) := by
  intro names value hbranch hdoc fields hlookup
  rw [permitted_eq_nest] at hbranch
  obtain ⟨leaf, hleaf, e⟩ := Document.mem_branches_nest
    (fun leaf hleaf => Document.isLeaf_of_mem_flatten (List.mem_of_mem_filter hleaf)) hbranch
  obtain ⟨rfl, rfl⟩ := Prod.mk.inj e
  have hfits := (Bool.and_eq_true_iff.1 (List.mem_filter.1 hleaf).2).2
  rw [Document.fits, Document.lookup?, hlookup, Bool.and_false] at hfits
  cases hfits

theorem dotFree_patched_iff (hd : DistinctKeys entry.record) (hp : DistinctKeys patch)
    (hdated : Record.IsDated entry.record) (stamp : Stamp) :
    DotFree (patched actor stamp patch entry) ↔ DotFree entry.record := by
  refine ⟨fun h => ?_, fun hfree =>
    (agreesBut_patched hfree hd hp hdated stamp).dotFree_iff.1 hfree⟩
  -- Only a field with a dot in its name lets a patch reach the stamp, and that field would stay.
  have hkey : Record.updatedField ∉ Dict.keys (permitted actor patch entry) := fun hkey => by
    obtain ⟨name, hname, hne, hbelow, -⟩ :=
      exists_key_of_mem_keys_permitted (by decide) (by decide) hkey
    have hkept : name ∈ Dict.keys (patched actor stamp patch entry) :=
      Dict.mem_keys_insert.2 (.inr (Document.mem_keys_merge.2 (.inl hname)))
    exact h.dot_not_mem hkept (Path.dot_mem_of_isWithin hbelow hne)
  refine Document.dotFree_of_merge hd (distinctKeys_permitted hd hp) keepsDocuments_permitted
    (Document.dotFree_of_insert h fun value hvalue => ?_)
  obtain ⟨old, hold⟩ := hdated
  rw [Document.get?_merge_of_not_mem hkey, hold] at hvalue
  rw [← Option.some.inj hvalue]
  exact Record.dotFree_stamp old

end

/-! ## Views -/

section

variable (actor : Actor) (stamp : Stamp) {entry : Entry}

theorem removal_view (entry : Entry) :
    (Change.removal actor stamp entry).view =
      (actor.redactEntry .read
        { entry with record := Record.stampDeleted entry.record stamp }).record := by
  change (actor.readableView _ _).1 = _
  rw [Actor.readableView_eq]
  rfl

/-- What an actor is shown of an updated record is what it may read of it, less what it may not
update. -/
theorem patchChange_view {patch : Document} (hfree : DotFree (patched actor stamp patch entry))
    (hd : DistinctKeys (patched actor stamp patch entry)) :
    (patchChange actor stamp patch entry).view =
      redact
        (actor.redactEntry .read { entry with record := patched actor stamp patch entry }).record
        ((actor.deniedPaths entry.permissions .update).filter fun path =>
          holdsWithin (flatten entry.record) path) := by
  let after := patched actor stamp patch entry
  let withheld := actor.restrictedPaths entry.permissions (flatten entry.record) .update
  let unreadable := actor.deniedPaths entry.permissions .read
  let denied := (actor.deniedPaths entry.permissions .update).filter fun path =>
    holdsWithin (flatten entry.record) path
  have hvisible : redact after withheld = prune (isOutside withheld) after :=
    Document.redact_eq_prune hfree hd withheld
  have hreadable : (actor.redactEntry .read { entry with record := after }).record =
      prune (isOutside unreadable) after := redactEntry_record_eq_prune actor .read hfree hd
  have hsame : isOutside withheld = isOutside denied := by
    funext names
    rw [isOutside, isOutside, Actor.isWithinAny_restrictedPaths_eq]
  calc (patchChange actor stamp patch entry).view
      = (actor.redactEntry .read { entry with record := redact after withheld }).record := by
        change (actor.readableView _ _).1 = _
        rw [Actor.readableView_eq]
        rfl
    _ = prune (isOutside unreadable) (prune (isOutside withheld) after) := by
        rw [redactEntry_record_eq_prune actor .read (hvisible ▸ Document.dotFree_prune _ hfree)
          (hvisible ▸ Document.distinctKeys_prune _ hd), hvisible]
    _ = prune (isOutside denied) (prune (isOutside unreadable) after) := by
        rw [Document.prune_comm, hsame]
    _ = redact (prune (isOutside unreadable) after) denied :=
        (Document.redact_eq_prune (Document.dotFree_prune _ hfree)
          (Document.distinctKeys_prune _ hd) denied).symm
    _ = redact (actor.redactEntry .read { entry with record := after }).record denied := by
        rw [hreadable]

end

/-! ## Reading back -/

section

variable {store : Store} {config : Config} {actorId : String} {actor : Actor}
  {table table' : Table} {entry : Entry}

/-- Reading the record of an identifier returns what the actor may see of it. -/
theorem read_ofId (hactor : store.registry.resolve actorId = .ok actor)
    (htable : store.backend.table? config.name = .ok table) (hids : table.ids.Nodup)
    (hentry : entry ∈ table.entries) :
    ∃ outcome, exec (Store.read config actorId (Query.ofId entry.id [])) store =
        (.ok outcome, store) ∧
      outcome.payload = [(actor.redactEntry .read entry).record] := by
  refine ⟨_, read_ok hactor htable _, ?_⟩
  rw [payload_ofReduction_reduce, Table.select_entries, Table.found_ofId hids hentry]
  rfl

/-- Reading a record that was written anew returns what the actor may see of the new one. -/
theorem read_written {f : Entry → Document} (hf : Rewrite f) (hsound : table.IsSound)
    (hactor : store.registry.resolve actorId = .ok actor) {query : Query} {entries : List Entry}
    (hentries : entries.Sublist (table.found query))
    (hreplace : Backend.replaceIn config.name table (entries.map f) = .ok table')
    (hentry : entry ∈ entries) :
    let store' := store.withTable config.name table'
    ∃ outcome, exec (Store.read config actorId (Query.ofId entry.id [])) store' =
        (.ok outcome, store') ∧
      outcome.payload = [(actor.redactEntry .read { entry with record := f entry }).record] := by
  intro store'
  obtain ⟨hids, hwritten⟩ := hsound.isKeyed.mem_replaceIn hf hentries hreplace
  have hmem := hwritten entry hentry
  have hnodup : table'.ids.Nodup := hids ▸ hsound.ids
  have hactor' : store'.registry.resolve actorId = .ok actor := hactor
  exact read_ofId hactor' (Backend.table?_withTable _ _ _) hnodup hmem

end

/-- After a removal, reading a record that was deleted returns what the removal returned of it, to
the same actor. After an update, reading a record that was changed returns, without dots in its
names, what the update returned, and perhaps what the actor may not update besides. -/
theorem write_reads_back {store : Store} (hr : store.Reachable) (config : Config)
    (actorId : String) (query : Query) {patch : Document} (hp : patch.DistinctKeys)
    (now : Int64) :
    (∀ outcome store',
      exec (Store.remove config actorId query now) store = (.ok outcome, store') →
      ∃ actor table, store.registry.resolve actorId = .ok actor ∧
        store.backend.table? config.name = .ok table ∧
        List.Forall₂
          (fun entry document => ∃ shown,
            exec (Store.read config actorId (Query.ofId entry.id [])) store' =
              (.ok shown, store') ∧
            shown.payload = [document])
          (removable actor (table.found query)) outcome.payload) ∧
    (∀ outcome store',
      exec (Store.update config actorId query patch now) store = (.ok outcome, store') →
      ∃ actor table table', store.registry.resolve actorId = .ok actor ∧
        store.backend.table? config.name = .ok table ∧
        store'.backend.table? config.name = .ok table' ∧
        List.Forall₂
          (fun entry document => ∃ after,
            { entry with record := after } ∈ table'.entries ∧
            (after.DotFree ↔ entry.record.DotFree) ∧
            (entry.record.DotFree →
              Dict.keys (flatten after) = Dict.keys (flatten entry.record) ∧
              ∃ shown full,
                exec (Store.read config actorId (Query.ofId entry.id [])) store' =
                  (.ok shown, store') ∧
                shown.payload = [full] ∧
                document = redact full
                  ((actor.deniedPaths entry.permissions .update).filter fun path =>
                    holdsWithin (flatten entry.record) path)))
          (changed actor patch (table.found query)) outcome.payload) := by
  refine ⟨fun outcome store' h => ?_, fun outcome store' h => ?_⟩
  · obtain ⟨actor, table, table', hactor, htable, hreplace, rfl, hpayload⟩ := remove_payload h
    have hsound := hr.isSound _ _ (Backend.table?_eq_ok.1 htable)
    refine ⟨actor, table, hactor, htable, ?_⟩
    rw [hpayload, List.forall₂_map_right_iff, List.forall₂_same]
    intro entry hentry
    have hremovable := removable_sublist actor (table.found query)
    obtain ⟨shown, hread, hshown⟩ :=
      read_written (.delete ⟨now, actorId⟩) hsound hactor hremovable hreplace hentry
    exact ⟨shown, hread, by rw [hshown, removal_view]⟩
  · obtain ⟨actor, table, table', hactor, htable, hreplace, rfl, hpayload⟩ := update_payload h
    have hsound := hr.isSound _ _ (Backend.table?_eq_ok.1 htable)
    have hdated := hr.isDated (Backend.table?_eq_ok.1 htable)
    have hrewrite : Rewrite (patched actor ⟨now, actorId⟩ patch) := .patch actor _ hp
    refine ⟨actor, table, table', hactor, htable, Backend.table?_withTable _ _ _, ?_⟩
    rw [hpayload, List.forall₂_map_right_iff, List.forall₂_same]
    intro entry hentry
    have hmem := (Table.mem_found (mem_changed.1 hentry).1).1
    have hd := (hsound.stored entry hmem).distinctKeys
    have hiff : (patched actor ⟨now, actorId⟩ patch entry).DotFree ↔ entry.record.DotFree :=
      dotFree_patched_iff hd hp (hdated entry hmem) _
    refine ⟨patched actor ⟨now, actorId⟩ patch entry,
      (hsound.isKeyed.mem_replaceIn hrewrite (changed_sublist actor patch _) hreplace).2 entry
        hentry, hiff, fun hfree => ?_⟩
    have hsame : AgreesBut _ entry.record (patched actor ⟨now, actorId⟩ patch entry) :=
      agreesBut_patched hfree hd hp (hdated entry hmem) _
    obtain ⟨shown, hread, hshown⟩ :=
      read_written hrewrite hsound hactor (changed_sublist actor patch _) hreplace hentry
    exact ⟨hsame.keys_flatten_eq.symm, shown, _, hread, hshown,
      patchChange_view actor ⟨now, actorId⟩ (hiff.2 hfree) (distinctKeys_patched hd hp _)⟩

/-- A record of which one field may not be updated, changed and then deleted. -/
theorem write_reads_back_bob :
    let config : Config :=
      { name := "people", overrides := SortedDict.empty.insert "age" { update := ["hr"] } }
    let store := (Store.empty {}).after [.registerActor ⟨"bob", []⟩, .registerCollection config,
      .create config "superadmin" [⟨"1", [("name", .string "Ann"), ("age", .int32 3)]⟩] .empty 1]
    let patch : Document := [("name", .string "Bea"), ("age", .int32 4)]
    store.Reachable ∧ patch.DistinctKeys ∧
      (∃ outcome store' shown,
        exec (Store.remove config "bob" {} 2) store = (.ok outcome, store') ∧
        exec (Store.read config "bob" (Query.ofId "1" [])) store' = (.ok shown, store') ∧
        shown.payload = outcome.payload) ∧
      ∃ outcome store' shown full,
        exec (Store.update config "bob" {} patch 2) store = (.ok outcome, store') ∧
        exec (Store.read config "bob" (Query.ofId "1" [])) store' = (.ok shown, store') ∧
        shown.payload = [full] ∧ outcome.payload = [redact full ["age"]] := by
  intro config store patch
  have hr : store.Reachable := by
    refine (Store.Reachable.empty {}).after ?_
    simp [Request.WellFormed, DistinctKeys, Value.DistinctKeys, Value.FieldsDistinctKeys]
  have hp : patch.DistinctKeys := by
    simp [patch, DistinctKeys, Value.DistinctKeys, Value.FieldsDistinctKeys]
  let entry : Entry := ⟨[("_id", .string "1"), ("_created", Stamp.toValue ⟨1, "superadmin"⟩),
    ("_updated", Stamp.toValue ⟨1, "superadmin"⟩), ("_deleted", .boolean false),
    ("name", .string "Ann"), ("age", .int32 3)], config.twin "1" ["name", "age"] .empty⟩
  have hactor : store.registry.resolve "bob" = .ok (.member ⟨"bob", []⟩) := by
    simp only [store]
    rfl
  have htable : store.backend.table? config.name = .ok ⟨[entry]⟩ := by
    simp only [store, config, entry]
    rfl
  have hfree : entry.record.DotFree := by
    simp [entry, Stamp.toValue, DotFree, Value.DotFree, Value.FieldsDotFree]
  have hid : entry.id = "1" := config.twin_id "1" ["name", "age"] .empty
  obtain ⟨hremoved, hupdated⟩ := write_reads_back hr config "bob" {} hp 2
  have hremovable : removable (.member ⟨"bob", []⟩) (Table.found ⟨[entry]⟩ {}) = [entry] := by
    simp only [entry, config]
    rfl
  have hchanged : changed (.member ⟨"bob", []⟩) patch (Table.found ⟨[entry]⟩ {}) = [entry] := by
    simp only [entry, config, patch]
    rfl
  have hdenied : ((Actor.member ⟨"bob", []⟩).deniedPaths entry.permissions .update).filter
      (fun path => holdsWithin (flatten entry.record) path) = ["age"] := by
    simp only [entry, config]
    rfl
  have hremoveOk : (exec (Store.remove config "bob" {} 2) store).1.isOk = true := by
    simp only [store, config]
    rw [Store.exec_remove]
    rfl
  have hupdateOk : (exec (Store.update config "bob" {} patch 2) store).1.isOk = true := by
    simp only [store, config, patch]
    rw [Store.exec_update]
    rfl
  refine ⟨hr, hp, ?_, ?_⟩
  · rcases hexec : exec (Store.remove config "bob" {} 2) store with ⟨_ | outcome, store'⟩
    · rw [hexec] at hremoveOk
      cases hremoveOk
    obtain ⟨actor, table, hactor', htable', hall⟩ := hremoved outcome store' hexec
    obtain rfl := Except.ok.inj (hactor.symm.trans hactor')
    obtain rfl := Except.ok.inj (htable.symm.trans htable')
    rw [hremovable] at hall
    obtain ⟨document, rest, ⟨shown, hread, hshown⟩, hrest, hpayload⟩ :=
      List.forall₂_cons_left_iff.1 hall
    rw [List.forall₂_nil_left_iff.1 hrest] at hpayload
    rw [hid] at hread
    exact ⟨outcome, store', shown, rfl, hread, hshown.trans hpayload.symm⟩
  · rcases hexec : exec (Store.update config "bob" {} patch 2) store with ⟨_ | outcome, store'⟩
    · rw [hexec] at hupdateOk
      cases hupdateOk
    obtain ⟨actor, table, table', hactor', htable', -, hall⟩ := hupdated outcome store' hexec
    obtain rfl := Except.ok.inj (hactor.symm.trans hactor')
    obtain rfl := Except.ok.inj (htable.symm.trans htable')
    rw [hchanged] at hall
    obtain ⟨document, rest, ⟨after, -, -, hback⟩, hrest, hpayload⟩ :=
      List.forall₂_cons_left_iff.1 hall
    obtain ⟨-, shown, full, hread, hshown, rfl⟩ := hback hfree
    rw [List.forall₂_nil_left_iff.1 hrest, hdenied] at hpayload
    rw [hid] at hread
    exact ⟨outcome, store', shown, full, rfl, hread, hshown, hpayload⟩

end FieldGuard
