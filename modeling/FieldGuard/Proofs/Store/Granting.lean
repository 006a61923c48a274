import FieldGuard.Proofs.Permission.Exactness
import FieldGuard.Proofs.Store.Removal
import FieldGuard.Proofs.Store.Update

/-!
# Granting tokens

Whoever holds more tokens is denied fewer paths (`Twin.deniedPaths_subset`), whatever paths are
reported in the end. So reading shows at least as much (`flatten_redactEntry_subset`), a removal
stamps at least the same records (`Table.stampedIds_subset`), and a patch replaces at least the same
leaves by the same values (`Actor.replacement?_mono`, `Table.IsKeyed.afterUpdate_mono`).

`granting_is_monotone` compares whole requests. To write, it needs records that carry their own
identifiers: a batch with one that does not is refused as a whole, and more tokens may put it into
the batch (`granting_refuses_unkeyed`).
-/

namespace FieldGuard

open Document (DotFree DistinctKeys flatten leaf?)

/-! ## What more tokens allow -/

section

variable {a b : Member} (hgranted : a.tokens ⊆ b.tokens)

include hgranted

/-- More tokens, fewer denied paths. -/
theorem Twin.deniedPaths_subset (twin : Twin) (operation : Operation) :
    twin.deniedPaths b operation ⊆ twin.deniedPaths a operation := by
  intro path hpath
  obtain ⟨triple, htriple, token, htoken, hlacks⟩ := Twin.mem_deniedPaths_iff.1 hpath
  exact Twin.mem_deniedPaths_iff.2
    ⟨triple, htriple, token, htoken, fun hholds => hlacks (hgranted hholds)⟩

theorem flatten_redactEntry_subset (operation : Operation) {entry : Entry}
    (hfree : DotFree entry.record) (hd : DistinctKeys entry.record) :
    flatten ((Actor.member a).redactEntry operation entry).record ⊆
      flatten ((Actor.member b).redactEntry operation entry).record := by
  rw [flatten_redactEntry _ operation hfree hd, flatten_redactEntry _ operation hfree hd]
  intro leaf hleaf
  obtain ⟨hmem, houtside⟩ := Document.mem_withoutPaths.1 hleaf
  have hdenied := entry.permissions.deniedPaths_subset hgranted operation
  exact Document.mem_withoutPaths.2
    ⟨hmem, Path.isWithinAny_eq_false_of_subset hdenied houtside⟩

theorem Actor.MayRemove.mono {entry : Entry} (h : (Actor.member a).MayRemove entry) :
    (Actor.member b).MayRemove entry :=
  fun path triple htriple hleaf => List.Subset.trans (h path triple htriple hleaf) hgranted

theorem removable_subset (entries : List Entry) :
    removable (.member a) entries ⊆ removable (.member b) entries := by
  intro entry hentry
  obtain ⟨hmem, hmay⟩ := mem_removable.1 hentry
  exact mem_removable.2 ⟨hmem, hmay.mono hgranted⟩

theorem Table.stampedIds_subset (table : Table) (query : Query) :
    table.stampedIds (.member a) query ⊆ table.stampedIds (.member b) query :=
  List.map_subset _ (removable_subset hgranted _)

theorem Actor.replacement?_mono {patch : Document} {twin : Twin} {names : List String}
    {leaf new : Value} (h : (Actor.member a).replacement? patch twin names leaf = some new) :
    (Actor.member b).replacement? patch twin names leaf = some new := by
  obtain ⟨hwalk, hnew, hleaf, houtside⟩ := replacement?_eq_some.1 h
  have hdenied := twin.deniedPaths_subset hgranted .update
  exact replacement?_eq_some.2
    ⟨hwalk, hnew, hleaf, Path.isWithinAny_eq_false_of_subset hdenied houtside⟩

theorem Patches.mono {patch : Document} {entry : Entry} (h : Patches (.member a) patch entry) :
    Patches (.member b) patch entry := by
  obtain ⟨leaf, hleaf, hsome⟩ := h
  obtain ⟨new, hnew⟩ := Option.isSome_iff_exists.1 hsome
  exact ⟨leaf, hleaf, Option.isSome_iff_exists.2 ⟨new, Actor.replacement?_mono hgranted hnew⟩⟩

/-- A leaf that a patch changes is changed to the same value with more tokens. -/
theorem leaf?_patched_mono {patch : Document} {entry : Entry}
    (hfree : DotFree entry.record) (hd : DistinctKeys entry.record) (hp : DistinctKeys patch)
    (stampA stampB : Stamp) {path : String}
    (houtside : Path.isWithin path Record.updatedField = false)
    (hchanged : leaf? (patched (.member a) stampA patch entry) path ≠ leaf? entry.record path) :
    leaf? (patched (.member b) stampB patch entry) path =
      leaf? (patched (.member a) stampA patch entry) path := by
  rw [leaf?_patched hfree hd hp _ houtside] at hchanged ⊢
  rw [leaf?_patched hfree hd hp _ houtside]
  cases hleaf : leaf? entry.record path with
  | none => rfl
  | some leaf =>
    rw [hleaf] at hchanged
    cases hnew :
        (Actor.member a).replacement? patch entry.permissions (Path.segments path) leaf with
    | none => simp [hnew] at hchanged
    | some new => simp [hnew, Actor.replacement?_mono hgranted hnew]

/-- A leaf that an update changes is changed to the same value with more tokens. -/
theorem Table.IsKeyed.afterUpdate_mono {table : Table} (hkeyed : table.IsKeyed) (query : Query)
    {patch : Document} (hp : DistinctKeys patch) (stampA stampB : Stamp) {entry : Entry}
    (hentry : entry ∈ table.entries) (hfree : DotFree entry.record)
    (hd : DistinctKeys entry.record) {path : String}
    (houtside : Path.isWithin path Record.updatedField = false)
    (hchanged : leaf? (table.afterUpdate (.member a) stampA query patch entry) path ≠
      leaf? entry.record path) :
    leaf? (table.afterUpdate (.member b) stampB query patch entry) path =
      leaf? (table.afterUpdate (.member a) stampA query patch entry) path := by
  rcases hkeyed.afterUpdate_cases (.member a) stampA query patch hentry with
    ⟨hmem, hnew⟩ | ⟨-, hsame⟩
  · obtain ⟨hfound, hpermitted⟩ := mem_changed.1 hmem
    have hpatches := (permitted_ne_nil_iff hfree hd).1 hpermitted
    have hmemB : entry ∈ changed (.member b) patch (table.found query) :=
      mem_changed.2 ⟨hfound, (permitted_ne_nil_iff hfree hd).2 (hpatches.mono hgranted)⟩
    have hnewB : table.afterUpdate (.member b) stampB query patch entry =
        patched (.member b) stampB patch entry := rewritten_of_mem_changed hkeyed stampB hmemB
    rw [hnew] at hchanged
    rw [hnew, hnewB]
    exact leaf?_patched_mono hgranted hfree hd hp stampA stampB houtside hchanged
  · rw [hsame] at hchanged
    exact absurd rfl hchanged

end

/-! ## Requests -/

theorem read_mono {store : Store} {config : Config} {idA idB : String} {a b : Member}
    {table : Table} (hgranted : a.tokens ⊆ b.tokens)
    (ha : store.registry.resolve idA = .ok (.member a))
    (hb : store.registry.resolve idB = .ok (.member b))
    (htable : store.backend.table? config.name = .ok table)
    (hfree : ∀ entry ∈ table.entries, entry.record.DotFree)
    (hd : ∀ entry ∈ table.entries, entry.record.DistinctKeys) (query : Query) :
    ∃ shownA shownB,
      exec (Store.read config idA query) store = (.ok shownA, store) ∧
      exec (Store.read config idB query) store = (.ok shownB, store) ∧
      List.Forall₂ (fun documentA documentB => flatten documentA ⊆ flatten documentB)
        shownA.payload shownB.payload := by
  refine ⟨_, _, read_ok ha htable query, read_ok hb htable query, ?_⟩
  rw [payload_ofReduction_reduce, payload_ofReduction_reduce, Table.select_entries,
    List.forall₂_map_left_iff, List.forall₂_map_right_iff, List.forall₂_same]
  intro projected hprojected
  obtain ⟨entry, hfound, rfl⟩ := List.mem_map.1 hprojected
  have hmem := (Table.mem_found hfound).1
  exact flatten_redactEntry_subset hgranted .read
    (Document.dotFree_project (hfree entry hmem) (hd entry hmem) _)
    (Document.distinctKeys_project (hfree entry hmem) (hd entry hmem) _)

/-- Let every token of one member be granted to another one too, and let no field name have a dot.
Then the other one reads as many documents with at least the same leaves. Where each record carries
its own identifier, a removal by the other one stamps at least the same records, and an update, if
there is no shape to keep, changes at least the same leaves to the same values, but for the stamp of
the change. -/
theorem granting_is_monotone {store : Store} {config : Config} {idA idB : String} {a b : Member}
    {table : Table} (hgranted : a.tokens ⊆ b.tokens)
    (ha : store.registry.resolve idA = .ok (.member a))
    (hb : store.registry.resolve idB = .ok (.member b))
    (htable : store.backend.table? config.name = .ok table)
    (hfree : ∀ entry ∈ table.entries, entry.record.DotFree)
    (hd : ∀ entry ∈ table.entries, entry.record.DistinctKeys) (query : Query) :
    (∃ shownA shownB,
      exec (Store.read config idA query) store = (.ok shownA, store) ∧
      exec (Store.read config idB query) store = (.ok shownB, store) ∧
      List.Forall₂ (fun documentA documentB => flatten documentA ⊆ flatten documentB)
        shownA.payload shownB.payload) ∧
    (table.IsKeyed → ∀ nowA nowB, ∃ outcomeA outcomeB tableA tableB,
      exec (Store.remove config idA query nowA) store =
        (.ok outcomeA, store.withTable config.name tableA) ∧
      exec (Store.remove config idB query nowB) store =
        (.ok outcomeB, store.withTable config.name tableB) ∧
      tableA.entries = table.entries.map (fun entry => { entry with
        record := if entry.id ∈ table.stampedIds (.member a) query
          then Record.stampDeleted entry.record ⟨nowA, idA⟩ else entry.record }) ∧
      tableB.entries = table.entries.map (fun entry => { entry with
        record := if entry.id ∈ table.stampedIds (.member b) query
          then Record.stampDeleted entry.record ⟨nowB, idB⟩ else entry.record }) ∧
      table.stampedIds (.member a) query ⊆ table.stampedIds (.member b) query) ∧
    (table.IsKeyed → config.shape = none → ∀ patch : Document, patch.DistinctKeys → ∀ nowA nowB,
      ∃ outcomeA outcomeB tableA tableB,
        exec (Store.update config idA query patch nowA) store =
          (.ok outcomeA, store.withTable config.name tableA) ∧
        exec (Store.update config idB query patch nowB) store =
          (.ok outcomeB, store.withTable config.name tableB) ∧
        tableA.entries = table.entries.map (fun entry => { entry with
          record := table.afterUpdate (.member a) ⟨nowA, idA⟩ query patch entry }) ∧
        tableB.entries = table.entries.map (fun entry => { entry with
          record := table.afterUpdate (.member b) ⟨nowB, idB⟩ query patch entry }) ∧
        ∀ entry ∈ table.entries, ∀ path, Path.isWithin path Record.updatedField = false →
          leaf? (table.afterUpdate (.member a) ⟨nowA, idA⟩ query patch entry) path ≠
            leaf? entry.record path →
          leaf? (table.afterUpdate (.member b) ⟨nowB, idB⟩ query patch entry) path =
            leaf? (table.afterUpdate (.member a) ⟨nowA, idA⟩ query patch entry) path) := by
  refine ⟨read_mono hgranted ha hb htable hfree hd query, fun hkeyed nowA nowB => ?_,
    fun hkeyed hshape patch hp nowA nowB => ?_⟩
  · obtain ⟨outcomeA, tableA, hexecA, hentriesA⟩ := remove_stamps hkeyed ha htable query nowA
    obtain ⟨outcomeB, tableB, hexecB, hentriesB⟩ := remove_stamps hkeyed hb htable query nowB
    exact ⟨outcomeA, outcomeB, tableA, tableB, hexecA, hexecB, hentriesA, hentriesB,
      table.stampedIds_subset hgranted query⟩
  · obtain ⟨outcomeA, tableA, hexecA, hentriesA⟩ :=
      update_writes hkeyed hshape hp ha htable query nowA
    obtain ⟨outcomeB, tableB, hexecB, hentriesB⟩ :=
      update_writes hkeyed hshape hp hb htable query nowB
    exact ⟨outcomeA, outcomeB, tableA, tableB, hexecA, hexecB, hentriesA, hentriesB,
      fun entry hentry path houtside hchanged =>
        hkeyed.afterUpdate_mono hgranted query hp _ _ hentry (hfree entry hentry)
          (hd entry hentry) houtside hchanged⟩

/-- Two members, one of whom lacks the token that one field requires. -/
theorem granting_is_monotone_bob :
    let a : Member := ⟨"ann", []⟩
    let b : Member := ⟨"bob", ["hr"]⟩
    let entry : Entry :=
      ⟨[("_id", .string "1"), ("name", .string "Eve"), ("age", .int32 3)],
        (Twin.empty "1").set "age" { read := ["hr"], update := ["hr"], remove := ["hr"] }⟩
    let table : Table := ⟨[entry]⟩
    let store : Store := ⟨((Registry.empty "root").insert a).insert b, .empty,
      Backend.empty.withTable "people" table⟩
    let config : Config := { name := "people" }
    let patch : Document := [("name", .string "Eva"), ("age", .int32 4)]
    a.tokens ⊆ b.tokens ∧
      store.registry.resolve "ann" = .ok (.member a) ∧
      store.registry.resolve "bob" = .ok (.member b) ∧
      store.backend.table? config.name = .ok table ∧ table.IsKeyed ∧
      (∀ entry ∈ table.entries, entry.record.DotFree) ∧
      (∀ entry ∈ table.entries, entry.record.DistinctKeys) ∧ patch.DistinctKeys ∧
      (∃ shownA shownB,
        exec (Store.read config "ann" {}) store = (.ok shownA, store) ∧
        exec (Store.read config "bob" {}) store = (.ok shownB, store) ∧
        List.Forall₂ (fun documentA documentB => flatten documentA ⊆ flatten documentB)
          shownA.payload shownB.payload) ∧
      table.stampedIds (.member a) {} = [] ∧ table.stampedIds (.member b) {} = ["1"] ∧
      (∃ outcomeA outcomeB tableA tableB,
        exec (Store.remove config "ann" {} 1) store =
          (.ok outcomeA, store.withTable "people" tableA) ∧
        exec (Store.remove config "bob" {} 1) store =
          (.ok outcomeB, store.withTable "people" tableB) ∧
        tableA.entries = [entry] ∧
        tableB.entries = [{ entry with
          record := Record.stampDeleted entry.record ⟨1, "bob"⟩ }]) ∧
      ∃ outcomeA outcomeB tableA tableB, ∃ after : Document,
        exec (Store.update config "ann" {} patch 1) store =
          (.ok outcomeA, store.withTable "people" tableA) ∧
        exec (Store.update config "bob" {} patch 1) store =
          (.ok outcomeB, store.withTable "people" tableB) ∧
        tableA.entries = [{ entry with
          record := [("_id", .string "1"), ("name", .string "Eva"), ("age", .int32 3),
            ("_updated", Stamp.toValue ⟨1, "ann"⟩)] }] ∧
        tableB.entries = [{ entry with record := after }] ∧
        leaf? after "name" = some (.string "Eva") := by
  intro a b entry table store config patch
  have hgranted : a.tokens ⊆ b.tokens := List.nil_subset _
  have ha : store.registry.resolve "ann" = .ok (.member a) := by
    simp [store, a, b, Registry.resolve, Registry.insert, Registry.empty, SortedDict.get?_insert]
  have hb : store.registry.resolve "bob" = .ok (.member b) := by
    simp [store, b, Registry.resolve, Registry.insert, Registry.empty, SortedDict.get?_insert]
  have htable : store.backend.table? config.name = .ok table := rfl
  have hkeyed : table.IsKeyed :=
    ⟨List.nodup_singleton _, List.forall_mem_singleton.2 rfl⟩
  have hfree : ∀ entry ∈ table.entries, entry.record.DotFree := by
    simp [table, entry, DotFree, Value.DotFree, Value.FieldsDotFree]
  have hd : ∀ entry ∈ table.entries, entry.record.DistinctKeys := by
    simp [table, entry, DistinctKeys, Value.DistinctKeys, Value.FieldsDistinctKeys]
  have hp : patch.DistinctKeys := by
    simp [patch, DistinctKeys, Value.DistinctKeys, Value.FieldsDistinctKeys]
  have hnone : table.stampedIds (.member a) {} = [] := rfl
  have hone : table.stampedIds (.member b) {} = ["1"] := rfl
  obtain ⟨hread, hremove, hupdate⟩ := granting_is_monotone hgranted ha hb htable hfree hd {}
  refine ⟨hgranted, ha, hb, htable, hkeyed, hfree, hd, hp, hread, hnone, hone, ?_, ?_⟩
  · obtain ⟨outcomeA, outcomeB, tableA, tableB, hexecA, hexecB, hentriesA, hentriesB, -⟩ :=
      hremove hkeyed 1 1
    rw [hnone] at hentriesA
    rw [hone] at hentriesB
    exact ⟨outcomeA, outcomeB, tableA, tableB, hexecA, hexecB, hentriesA, hentriesB⟩
  · obtain ⟨outcomeA, outcomeB, tableA, tableB, hexecA, hexecB, hentriesA, hentriesB, hsame⟩ :=
      hupdate hkeyed rfl patch hp 1 1
    have hpermitted : permitted (.member a) patch entry = [("name", .string "Eva")] := by
      simp only [a, entry, patch]
      rfl
    have hmem : entry ∈ changed (.member a) patch (table.found {}) :=
      mem_changed.2 ⟨List.mem_singleton_self _, by rw [hpermitted]; exact List.cons_ne_nil _ _⟩
    have hafter : table.afterUpdate (.member a) ⟨1, "ann"⟩ {} patch entry =
        [("_id", .string "1"), ("name", .string "Eva"), ("age", .int32 3),
          ("_updated", Stamp.toValue ⟨1, "ann"⟩)] := by
      rw [Table.afterUpdate, rewritten_of_mem_changed hkeyed _ hmem, patched, hpermitted]
      rfl
    have hold : leaf? entry.record "name" = some (.string "Eve") := rfl
    have hnew : leaf? (table.afterUpdate (.member a) ⟨1, "ann"⟩ {} patch entry) "name" =
        some (.string "Eva") := by
      rw [hafter]
      rfl
    have hname := hsame entry (List.mem_singleton_self _) "name" rfl (by simp [hold, hnew])
    rw [List.map_singleton, hafter] at hentriesA
    exact ⟨outcomeA, outcomeB, tableA, tableB, _, hexecA, hexecB, hentriesA, hentriesB,
      hname.trans hnew⟩

/-- A record without an identifier, which only the second member may remove: with it the removal
is refused, and the other record stays. -/
theorem granting_refuses_unkeyed :
    let a : Member := ⟨"ann", []⟩
    let b : Member := ⟨"bob", ["hr"]⟩
    let unkeyed : Entry :=
      ⟨[("name", .string "Eve")], (Twin.empty "1").set "name" { remove := ["hr"] }⟩
    let keyed : Entry := ⟨[("_id", .string "2"), ("name", .string "Tom")], Twin.empty "2"⟩
    let table : Table := ⟨[unkeyed, keyed]⟩
    let store : Store := ⟨((Registry.empty "root").insert a).insert b, .empty,
      Backend.empty.withTable "people" table⟩
    let config : Config := { name := "people" }
    a.tokens ⊆ b.tokens ∧
      store.registry.resolve "ann" = .ok (.member a) ∧
      store.registry.resolve "bob" = .ok (.member b) ∧
      store.backend.table? config.name = .ok table ∧
      (∀ entry ∈ table.entries, entry.record.DotFree) ∧
      (∀ entry ∈ table.entries, entry.record.DistinctKeys) ∧
      (∃ outcome, exec (Store.remove config "ann" {} 1) store =
        (.ok outcome, store.withTable "people" ⟨[unkeyed,
          { keyed with record := Record.stampDeleted keyed.record ⟨1, "ann"⟩ }]⟩)) ∧
      exec (Store.remove config "bob" {} 1) store =
        (.error (.invalidRecord "record has no `_id`"), store) := by
  intro a b unkeyed keyed table store config
  have ha : store.registry.resolve "ann" = .ok (.member a) := by
    simp [store, a, b, Registry.resolve, Registry.insert, Registry.empty, SortedDict.get?_insert]
  have hb : store.registry.resolve "bob" = .ok (.member b) := by
    simp [store, b, Registry.resolve, Registry.insert, Registry.empty, SortedDict.get?_insert]
  refine ⟨List.nil_subset _, ha, hb, rfl, ?_, ?_, ?_, ?_⟩
  · simp [table, unkeyed, keyed, DotFree, Value.DotFree, Value.FieldsDotFree]
  · simp [table, unkeyed, keyed, DistinctKeys, Value.DistinctKeys, Value.FieldsDistinctKeys]
  · rw [Store.exec_remove, ha]
    exact ⟨_, rfl⟩
  · rw [Store.exec_remove, hb]
    rfl

end FieldGuard
