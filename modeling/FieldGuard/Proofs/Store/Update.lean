import FieldGuard.Proofs.Store.Sound

/-!
# Exact updates

What an update does to the records of a reachable store, and what it returns
(`update_replaces_leaves`): records that are not selected stay as they are, and a selected record
without dots in field names has exactly those of its leaves replaced that the patch and the
permissions say, in place. An update succeeds if what it writes has the shape of the collection and
each record carries its own identifier (`update_ok`, `update_writes`).
-/

namespace FieldGuard

open Document (DotFree DistinctKeys branches)

variable {store store' : Store} {config : Config} {actorId : String} {query : Query}
  {patch : Document} {now : Int64} {outcome : Outcome}

/-- The record of an entry that a patch changes is the patched one afterwards. -/
theorem rewritten_of_mem_changed {table : Table} (h : table.IsKeyed) {actor : Actor} (stamp : Stamp)
    {entry : Entry} (hmem : entry ∈ changed actor patch (table.found query)) :
    Table.rewritten (patched actor stamp patch) (changed actor patch (table.found query)) entry =
      patched actor stamp patch entry :=
  Table.rewritten_of_mem _ (Table.nodup_ids_rewrite h.ids List.filter_sublist) hmem

/-- An update succeeds if the records that it changes keep the shape of their collection. Then it
puts their patched records in their places. -/
theorem update_ok {table : Table} (hkeyed : table.IsKeyed) (hp : patch.DistinctKeys) {actor : Actor}
    (hactor : store.registry.resolve actorId = .ok actor)
    (htable : store.backend.table? config.name = .ok table)
    (hvalid : ∀ entry ∈ changed actor patch (table.found query),
      config.validate (patched actor ⟨now, actorId⟩ patch entry) = .ok ()) :
    ∃ outcome table', exec (Store.update config actorId query patch now) store =
        (.ok outcome, store.withTable config.name table') ∧
      table'.entries = table.entries.map fun entry =>
        { entry with
          record := Table.rewritten (patched actor ⟨now, actorId⟩ patch)
            (changed actor patch (table.found query)) entry } := by
  have hrewrite : Rewrite (patched actor ⟨now, actorId⟩ patch) := .patch actor _ hp
  have hchanges : ∀ entry ∈ table.found query,
      ∃ change?, Store.changeOf config actor ⟨now, actorId⟩ patch entry = .ok change? := by
    intro entry hentry
    by_cases hnil : permitted actor patch entry = []
    · exact ⟨none, changeOf_eq_none.2 hnil⟩
    · exact ⟨some _, changeOf_eq_some.2 ⟨hnil, hvalid entry (mem_changed.2 ⟨hentry, hnil⟩), rfl⟩⟩
  obtain ⟨changes, hchanges⟩ := exists_mapM_eq_ok hchanges
  have hchanged : changed actor patch (table.found query) ⊆ table.entries := fun entry hentry =>
    (Table.mem_found (mem_changed.1 hentry).1).1
  obtain ⟨table', htable'⟩ := hkeyed.exists_replaceIn hrewrite config.name hchanged
  have hrecords : ((changes.filterMap id).map (·.record)) =
      (changed actor patch (table.found query)).map (patched actor ⟨now, actorId⟩ patch) := by
    rw [(changes_eq hchanges).1, List.map_map]
    rfl
  rw [Store.exec_update, hactor, ok_bind, htable, ok_bind, hchanges, ok_bind, hrecords, htable',
    ok_bind]
  exact ⟨_, table', rfl, hkeyed.replaceIn hrewrite List.filter_sublist htable'⟩

/-- The record of an entry after an update: the patched one if the update changes it. -/
def Table.afterUpdate (table : Table) (actor : Actor) (stamp : Stamp) (query : Query)
    (patch : Document) (entry : Entry) : Document :=
  Table.rewritten (patched actor stamp patch) (changed actor patch (table.found query)) entry

theorem Table.IsKeyed.afterUpdate_cases {table : Table} (h : table.IsKeyed) (actor : Actor)
    (stamp : Stamp) (query : Query) (patch : Document) {entry : Entry}
    (hentry : entry ∈ table.entries) :
    entry ∈ changed actor patch (table.found query) ∧
        table.afterUpdate actor stamp query patch entry = patched actor stamp patch entry ∨
      entry ∉ changed actor patch (table.found query) ∧
        table.afterUpdate actor stamp query patch entry = entry.record :=
  h.rewritten_cases _ (changed_sublist actor patch _) hentry

/-- Where there is no shape to keep, an update succeeds. -/
theorem update_writes {table : Table} (hkeyed : table.IsKeyed) (hshape : config.shape = none)
    (hp : patch.DistinctKeys) {actor : Actor}
    (hactor : store.registry.resolve actorId = .ok actor)
    (htable : store.backend.table? config.name = .ok table) (query : Query) (now : Int64) :
    ∃ outcome table', exec (Store.update config actorId query patch now) store =
        (.ok outcome, store.withTable config.name table') ∧
      table'.entries = table.entries.map fun entry =>
        { entry with record := table.afterUpdate actor ⟨now, actorId⟩ query patch entry } := by
  refine update_ok hkeyed hp hactor htable fun _ _ => ?_
  rw [Config.validate, hshape]

/-- Each leaf of a record that has a replacement is replaced by it, the stamp of the last change
says who did it and when, and the record is returned once. Where no leaf has one, the record stays
as it is and is not returned. -/
theorem update_replaces_leaves (hr : store.Reachable) (hp : patch.DistinctKeys)
    (h : exec (Store.update config actorId query patch now) store = (.ok outcome, store')) :
    ∃ (actor : Actor) (table table' : Table) (after : Entry → Document)
      (shown : Entry → Option Document),
      store.registry.resolve actorId = .ok actor ∧
      store.backend.table? config.name = .ok table ∧
      store' = store.withTable config.name table' ∧
      table'.entries = table.entries.map (fun entry => { entry with record := after entry }) ∧
      outcome.payload = (table.found query).filterMap shown ∧
      (∀ entry ∈ table.entries, entry ∉ table.found query → after entry = entry.record) ∧
      ∀ entry ∈ table.found query, entry.record.DotFree →
        (Patches actor patch entry →
          after entry = Record.stampUpdated (replaced actor patch entry) ⟨now, actorId⟩ ∧
          branches (replaced actor patch entry) = (branches entry.record).map (fun leaf =>
            (leaf.1, (actor.replacement? patch entry.permissions leaf.1 leaf.2).getD leaf.2)) ∧
          Dict.keys (after entry) = Dict.keys entry.record ∧
          (shown entry).isSome = true) ∧
        (¬ Patches actor patch entry → after entry = entry.record ∧ shown entry = none) := by
  obtain ⟨actor, table, table', hactor, htable, hreplace, hstore, hpayload⟩ := update_payload h
  have hsound : table.IsSound := hr.isSound _ _ (Backend.table?_eq_ok.1 htable)
  have hrewrite : Rewrite (patched actor ⟨now, actorId⟩ patch) := .patch actor _ hp
  have hchanged := changed_sublist actor patch (table.found query)
  refine ⟨actor, table, table',
    Table.rewritten (patched actor ⟨now, actorId⟩ patch) (changed actor patch (table.found query)),
    fun entry => if (permitted actor patch entry).isEmpty then none
      else some (patchChange actor ⟨now, actorId⟩ patch entry).view,
    hactor, htable, hstore, hsound.isKeyed.replaceIn hrewrite hchanged hreplace, ?_, ?_, ?_⟩
  · rw [hpayload, changed, ← List.filterMap_eq_map, List.filterMap_filter]
    refine List.filterMap_congr fun entry _ => ?_
    cases (permitted actor patch entry).isEmpty <;> rfl
  · intro entry hentry hfound
    rcases hsound.isKeyed.rewritten_cases _ hchanged hentry with ⟨hmem, -⟩ | ⟨-, hsame⟩
    · exact absurd (hchanged.subset hmem) hfound
    · exact hsame
  · intro entry hfound hfree
    have hentry := (Table.mem_found hfound).1
    have hstored := hsound.stored entry hentry
    have hpatches : permitted actor patch entry ≠ [] ↔ Patches actor patch entry :=
      permitted_ne_nil_iff hfree hstored.distinctKeys
    constructor
    · intro h
      have hpermitted := hpatches.2 h
      have hmem := mem_changed.2 ⟨hfound, hpermitted⟩
      have hafter := rewritten_of_mem_changed hsound.isKeyed ⟨now, actorId⟩ hmem
      have hrecord := hafter.trans (patched_eq hfree hstored.distinctKeys hp ⟨now, actorId⟩)
      have hkeys : Dict.keys (replaced actor patch entry) = Dict.keys entry.record :=
        Document.keys_mapLeaves _ _
      refine ⟨hrecord, branches_replaced actor patch entry, ?_, ?_⟩
      · rw [hrecord, Record.keys_stampUpdated _ (hkeys ▸ hstored.updated), hkeys]
      · simp [hpermitted]
    · intro h
      have hpermitted : permitted actor patch entry = [] := by
        by_contra hne
        exact h (hpatches.1 hne)
      rcases hsound.isKeyed.rewritten_cases (patched actor ⟨now, actorId⟩ patch) hchanged hentry
        with ⟨hmem, -⟩ | ⟨-, hsame⟩
      · exact absurd hpermitted (mem_changed.1 hmem).2
      · exact ⟨hsame, by simp [hpermitted]⟩

/-- A patch of two fields, one of which requires a token for updating that the actor lacks. -/
theorem update_replaces_leaves_bob :
    let config : Config :=
      { name := "people", overrides := SortedDict.empty.insert "age" { update := ["hr"] } }
    let store := (Store.empty {}).after [.registerActor ⟨"bob", []⟩, .registerCollection config,
      .create config "superadmin" [⟨"1", [("name", .string "Ann"), ("age", .int32 3)]⟩] .empty 1]
    let patch : Document := [("name", .string "Bea"), ("age", .int32 4)]
    store.Reachable ∧ patch.DistinctKeys ∧ ∃ outcome store' table',
      exec (Store.update config "bob" {} patch 2) store = (.ok outcome, store') ∧
      outcome.payload.length = 1 ∧
      store' = store.withTable "people" table' ∧
      table'.entries.map (·.record) = [[("_id", .string "1"),
        ("_created", Stamp.toValue ⟨1, "superadmin"⟩), ("_updated", Stamp.toValue ⟨2, "bob"⟩),
        ("_deleted", .boolean false), ("name", .string "Bea"), ("age", .int32 3)]] := by
  intro config store patch
  have hr : store.Reachable := by
    refine (Store.Reachable.empty {}).after ?_
    simp [Request.WellFormed, DistinctKeys, Value.DistinctKeys, Value.FieldsDistinctKeys]
  have hp : patch.DistinctKeys := by
    simp [patch, DistinctKeys, Value.DistinctKeys, Value.FieldsDistinctKeys]
  have hok : (exec (Store.update config "bob" {} patch 2) store).1.isOk = true := by
    simp only [store, config, patch]
    rw [Store.exec_update]
    rfl
  rcases hexec : exec (Store.update config "bob" {} patch 2) store with ⟨_ | outcome, store'⟩
  · rw [hexec] at hok
    cases hok
  obtain ⟨actor, table, table', after, shown, hactor, htable, hstore', hentries, hpayload, -,
    hselected⟩ := update_replaces_leaves hr hp hexec
  have hactorBob : Except.ok (Actor.member ⟨"bob", []⟩) = Except.ok actor := hactor
  obtain rfl := Except.ok.inj hactorBob
  let entry : Entry := ⟨[("_id", .string "1"), ("_created", Stamp.toValue ⟨1, "superadmin"⟩),
    ("_updated", Stamp.toValue ⟨1, "superadmin"⟩), ("_deleted", .boolean false),
    ("name", .string "Ann"), ("age", .int32 3)], config.twin "1" ["name", "age"] .empty⟩
  have htableOne : store.backend.table? config.name = .ok ⟨[entry]⟩ := by
    simp only [store, config, entry]
    rfl
  obtain rfl := Except.ok.inj (htableOne.symm.trans htable)
  have hfree : entry.record.DotFree := by
    simp [entry, Stamp.toValue, DotFree, Value.DotFree, Value.FieldsDotFree]
  have hpatches : Patches (.member ⟨"bob", []⟩) patch entry :=
    ⟨(["name"], .string "Ann"),
      Document.mem_branches_of_walk? (List.cons_ne_nil _ _) rfl (by simp only [entry]; rfl),
      by simp only [entry, patch, config]; rfl⟩
  obtain ⟨hafter, -, -, hshown⟩ := (hselected entry (List.mem_singleton_self _) hfree).1 hpatches
  refine ⟨hr, hp, outcome, store', table', rfl, ?_, hstore', ?_⟩
  · obtain ⟨view, hview⟩ := Option.isSome_iff_exists.1 hshown
    rw [hpayload]
    change (List.filterMap shown [entry]).length = 1
    simp [hview]
  · rw [hentries, List.map_singleton, List.map_singleton, hafter]
    simp only [entry, patch, config]
    rfl

end FieldGuard
