import FieldGuard.Proofs.Permission.Exactness
import FieldGuard.Proofs.Store.Change

/-!
# Projecting what is read

A query projects records before what its actor may not read is taken out of them, so the paths
withheld are looked for in what the projection leaves. Where no field name has a dot, both steps
prune the record, and it does not matter which comes first (`redactEntry_projectEntry`): reading
with a projection returns the projections of what reading without it returns (`read_projects`).
-/

namespace FieldGuard

open Document (DotFree DistinctKeys isInside isOutside project prune)

/-- Taking out what an actor may not see commutes with projecting. -/
theorem redactEntry_projectEntry (actor : Actor) (operation : Operation) (query : Query)
    {entry : Entry} (hfree : DotFree entry.record) (hd : DistinctKeys entry.record) :
    (actor.redactEntry operation (query.projectEntry entry)).record =
      project (actor.redactEntry operation entry).record query.projection := by
  by_cases hnil : query.projection = []
  · rw [Query.projectEntry, hnil]
    rfl
  let denied := actor.deniedPaths entry.permissions operation
  let roots := Path.outermost query.projection
  have hprojected : (query.projectEntry entry).record = prune (isInside roots) entry.record :=
    Document.project_eq_prune hfree hd hnil
  have hprojectedFree : DotFree (query.projectEntry entry).record :=
    Document.dotFree_project hfree hd _
  have hprojectedKeys : DistinctKeys (query.projectEntry entry).record :=
    Document.distinctKeys_project hfree hd _
  calc (actor.redactEntry operation (query.projectEntry entry)).record
      = prune (isOutside denied) (prune (isInside roots) entry.record) := by
        rw [redactEntry_record_eq_prune actor operation hprojectedFree hprojectedKeys, hprojected]
        rfl
    _ = prune (isInside roots) (prune (isOutside denied) entry.record) :=
        Document.prune_comm _ _ _
    _ = project (actor.redactEntry operation entry).record query.projection := by
        rw [redactEntry_record_eq_prune actor operation hfree hd,
          Document.project_eq_prune (Document.dotFree_prune _ hfree)
            (Document.distinctKeys_prune _ hd) hnil]

/-- Reading with a projection returns, document by document, the projection of what reading without
it returns, and says the same of the limit. -/
theorem read_projects {store : Store} (config : Config) {actorId : String} {actor : Actor}
    {table : Table} (hactor : store.registry.resolve actorId = .ok actor)
    (htable : store.backend.table? config.name = .ok table)
    (hfree : ∀ entry ∈ table.entries, entry.record.DotFree)
    (hd : ∀ entry ∈ table.entries, entry.record.DistinctKeys) (query : Query) :
    ∃ outcome whole,
      exec (Store.read config actorId query) store = (.ok outcome, store) ∧
      exec (Store.read config actorId { query with projection := [] }) store =
        (.ok whole, store) ∧
      outcome.payload = whole.payload.map (fun document => project document query.projection) ∧
      outcome.payload.length = whole.payload.length ∧
      outcome.isLimited = whole.isLimited := by
  refine ⟨_, _, read_ok hactor htable query, read_ok hactor htable _, ?_⟩
  have hpayload : (Outcome.ofReduction (reduce actor (table.select query) .read)).payload =
      (Outcome.ofReduction
        (reduce actor (table.select { query with projection := [] }) .read)).payload.map
        fun document => project document query.projection := by
    rw [payload_ofReduction_reduce, payload_ofReduction_reduce, table.select_whole_entries,
      Table.select_entries, List.map_map, List.map_map]
    refine List.map_congr_left fun entry hentry => ?_
    have hmem := (Table.mem_found hentry).1
    exact redactEntry_projectEntry actor .read query (hfree entry hmem) (hd entry hmem)
  refine ⟨hpayload, by rw [hpayload, List.length_map], ?_⟩
  rw [isLimited_ofReduction_reduce, isLimited_ofReduction_reduce]
  rfl

/-- A projection on a container of which a part is withheld. -/
theorem read_projects_data :
    let member : Member := ⟨"bob", []⟩
    let entry : Entry :=
      ⟨[("_id", .string "1"), ("name", .string "Ann"),
          ("data", .document [("age", .int32 3), ("city", .string "Lyon")])],
        (Twin.empty "1").set "data.age" { read := ["age"] }⟩
    let store : Store := ⟨(Registry.empty "root").insert member, .empty,
      Backend.empty.withTable "people" ⟨[entry]⟩⟩
    let query : Query := { projection := ["data.city", "data"] }
    store.registry.resolve "bob" = .ok (.member member) ∧
      store.backend.table? "people" = .ok ⟨[entry]⟩ ∧
      entry.record.DotFree ∧ entry.record.DistinctKeys ∧
      ∃ outcome whole,
        exec (Store.read { name := "people" } "bob" query) store = (.ok outcome, store) ∧
        exec (Store.read { name := "people" } "bob" {}) store = (.ok whole, store) ∧
        whole.payload = [[("_id", .string "1"), ("name", .string "Ann"),
          ("data", .document [("city", .string "Lyon")])]] ∧
        outcome.payload = whole.payload.map (fun document => project document query.projection) ∧
        outcome.payload = [[("data", .document [("city", .string "Lyon")])]] ∧
        outcome.isLimited = whole.isLimited := by
  intro member entry store query
  have hactor : store.registry.resolve "bob" = .ok (.member member) := rfl
  have htable : store.backend.table? "people" = .ok ⟨[entry]⟩ := rfl
  have hfree : entry.record.DotFree := by
    simp [entry, DotFree, Value.DotFree, Value.FieldsDotFree]
  have hd : entry.record.DistinctKeys := by
    simp [entry, DistinctKeys, Value.DistinctKeys, Value.FieldsDistinctKeys]
  obtain ⟨outcome, whole, hread, hwhole, hpayload, -, hlimited⟩ :=
    read_projects { name := "people" } hactor htable (by simpa using hfree)
      (by simpa using hd) query
  obtain ⟨_, _, hactor', htable', -, hshown⟩ := read_payload hwhole
  obtain rfl := Except.ok.inj (hactor.symm.trans hactor')
  obtain rfl := Except.ok.inj (htable.symm.trans htable')
  have hwholePayload : whole.payload = [[("_id", .string "1"), ("name", .string "Ann"),
      ("data", .document [("city", .string "Lyon")])]] := hshown.trans rfl
  refine ⟨hactor, htable, hfree, hd, outcome, whole, hread, hwhole, hwholePayload, hpayload, ?_,
    hlimited⟩
  rw [hpayload, hwholePayload]
  rfl

end FieldGuard
