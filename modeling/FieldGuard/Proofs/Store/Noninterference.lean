import FieldGuard.Proofs.Document.Agreement
import FieldGuard.Proofs.Store.Change

/-!
# Noninterference of reading

Two stores look the same to an actor if they differ only in values that the actor may not read. What
reading returns to the actor is then the same, down to the counts of what was withheld, unless the
query itself tells the stores apart: by its filter, or by the values that it sorts by
(`read_indifferent`).

* `Actor.redactEntry_eq`: what an actor may see of an entry does not depend on what it may not see;
* `Entry.LooksSame.projectEntry`: nor does it after a projection;
* `Table.LooksSame.found`: a query that treats the entries alike selects corresponding ones.
-/

namespace FieldGuard

open Document (AgreesOutside flatten lookup?)

/-! ## Entries -/

/-- Entries that agree outside of the paths denied to an actor look the same to it. -/
theorem Actor.redactEntry_eq (actor : Actor) (operation : Operation) {entry other : Entry}
    (hpermissions : entry.permissions = other.permissions)
    (h : AgreesOutside (actor.deniedPaths entry.permissions operation) entry.record
      other.record) :
    actor.redactEntry operation entry = actor.redactEntry operation other := by
  have hpaths : actor.restrictedPaths entry.permissions (flatten entry.record) operation =
      actor.restrictedPaths entry.permissions (flatten other.record) operation :=
    actor.restrictedPaths_congr _ operation h.flatten.keys_eq
  have hrecord : Document.redact entry.record
        (actor.restrictedPaths entry.permissions (flatten entry.record) operation) =
      Document.redact other.record
        (actor.restrictedPaths entry.permissions (flatten entry.record) operation) := by
    unfold Document.redact
    split
    · -- Nothing is withheld, so no leaf is hidden.
      rename_i hempty
      refine h.eq fun branch hbranch hinside => ?_
      have hkey : Path.ofSegments branch.1 ∈ Dict.keys (flatten entry.record) :=
        Document.mem_keys_flatten.2 ⟨branch, hbranch, rfl⟩
      rw [Document.isInside, ← isWithinAny_restrictedPaths_iff hkey,
        List.isEmpty_iff.1 hempty] at hinside
      cases hinside
    · rw [withoutPaths_restrictedPaths, hpaths, withoutPaths_restrictedPaths]
      refine congrArg Document.nest ((h.flatten.filter fun path =>
        !Path.isWithinAny path (actor.deniedPaths entry.permissions operation)).eq ?_)
      intro path value value' hmem hsame
      have houtside := (Document.mem_withoutPaths.1 hmem).2
      refine hsame.resolve_right fun hhidden => ?_
      rw [hhidden.2.2] at houtside
      cases houtside
  rw [redactEntry, redactEntry, ← hpermissions, hrecord, hpaths, Entry.id, Entry.id, hpermissions]

/-- The entries have one twin, and their records agree but for what the actor may not read. -/
structure Entry.LooksSame (actor : Actor) (entry other : Entry) : Prop where
  permissions : entry.permissions = other.permissions
  record : AgreesOutside (actor.deniedPaths entry.permissions .read) entry.record other.record

/-- The query does not tell the entries apart: its filter gives one verdict on both, and the field
that it sorts by has one value in both. -/
structure Query.TreatsAlike (query : Query) (entry other : Entry) : Prop where
  filter : (query.filter.all fun filter => filter.accepts entry.record) =
    query.filter.all fun filter => filter.accepts other.record
  sort : ∀ key, query.sort = some key →
    lookup? entry.record key.field = lookup? other.record key.field

theorem Record.isDeleted_eq_any (record : Document) :
    isDeleted record = (Dict.get? record deletedField).any Value.isDocument := by
  unfold isDeleted
  cases Dict.get? record deletedField with
  | none => rfl
  | some value => cases value <;> rfl

theorem Record.isDeleted_eq_of_agreesBut {hidden : List String → Prop} {d e : Document}
    (h : Document.AgreesBut hidden d e) : isDeleted d = isDeleted e := by
  have hget := (Document.agreesBut_iff.1 h).get? deletedField
  rw [isDeleted_eq_any, isDeleted_eq_any]
  generalize Dict.get? d deletedField = value? at hget ⊢
  generalize Dict.get? e deletedField = other? at hget ⊢
  cases hget with
  | some hvalue => exact hvalue.isDocument_eq
  | none => rfl

variable {actor : Actor} {query : Query} {entry other : Entry}

theorem Entry.LooksSame.projectEntry (h : entry.LooksSame actor other) (query : Query) :
    (query.projectEntry entry).LooksSame actor (query.projectEntry other) :=
  ⟨h.permissions, h.record.project query.projection⟩

theorem Query.TreatsAlike.selects_eq (h : query.TreatsAlike entry other)
    (hsame : entry.LooksSame actor other) : query.selects entry = query.selects other := by
  rw [selects, selects, Record.isDeleted_eq_of_agreesBut hsame.record, h.filter, Entry.id, Entry.id,
    hsame.permissions]

/-! ## Tables -/

/-- The entries of the tables look the same, one after the other. -/
def Table.LooksSame (actor : Actor) (table other : Table) : Prop :=
  List.Forall₂ (Entry.LooksSame actor) table.entries other.entries

section

variable {table other : Table}

/-- Before the projection, a query selects entries that look the same. -/
theorem Table.LooksSame.arrange (h : table.LooksSame actor other)
    (halike : List.Forall₂ query.TreatsAlike table.entries other.entries) :
    List.Forall₂ (Entry.LooksSame actor) (query.arrange (table.entries.filter query.selects))
      (query.arrange (other.entries.filter query.selects)) := by
  have hboth : List.Forall₂
      (fun entry other => entry.LooksSame actor other ∧ query.TreatsAlike entry other)
      table.entries other.entries := List.Forall₂.mp (fun _ _ => And.intro) h halike
  have hselected := List.rel_filter (p := query.selects) (q := query.selects)
    (fun _ _ h => iff_of_eq (congrArg (· = true) (h.2.selects_eq h.1))) hboth
  unfold Query.arrange
  split
  · exact hselected.imp fun _ _ h => h.1
  · rename_i key hsort
    refine (query.sorting.forall₂_sort (fun hx hy => ?_) hselected).imp fun _ _ h => h.1
    rw [SortKey.isBefore, SortKey.isBefore, hx.2.sort key hsort, hy.2.sort key hsort]

/-- What an actor may read of the selected records is the same. -/
theorem Table.LooksSame.reduce_select (h : table.LooksSame actor other)
    (halike : List.Forall₂ query.TreatsAlike table.entries other.entries) :
    reduce actor (table.select query) .read = reduce actor (other.select query) .read := by
  have harranged := h.arrange halike
  refine reduce_congr ?_ ?_
  · rw [← List.forall₂_eq_eq_eq, List.forall₂_map_left_iff, List.forall₂_map_right_iff, select,
      select, List.forall₂_map_left_iff, List.forall₂_map_right_iff]
    refine (query.forall₂_page harranged).imp fun entry other hentry => ?_
    have hprojected := hentry.projectEntry query
    exact actor.redactEntry_eq .read hprojected.permissions hprojected.record
  · rw [select, select, Query.isLimiting, Query.isLimiting, harranged.length_eq]

end

/-! ## Stores -/

/-- The stores have the same actors and collections, with tables that look the same. -/
structure Store.LooksSame (actor : Actor) (store other : Store) : Prop where
  registry : store.registry = other.registry
  configs : store.configs = other.configs
  tables : ∀ name, Option.Rel (Table.LooksSame actor) (store.backend.tables.get? name)
    (other.backend.tables.get? name)

/-- Reading returns the same to an actor from two stores that look the same to it, unless the query
tells them apart: the payload, the status and the flags, and the counts of what was withheld. It
fails in both or in none, and it succeeds if the collection is there. -/
theorem read_indifferent {store other : Store} (config : Config) {actorId : String} {actor : Actor}
    (hactor : store.registry.resolve actorId = .ok actor) (hsame : store.LooksSame actor other)
    (query : Query)
    (halike : ∀ table table', store.backend.table? config.name = .ok table →
      other.backend.table? config.name = .ok table' →
        List.Forall₂ query.TreatsAlike table.entries table'.entries) :
    (exec (Store.read config actorId query) store).1 =
        (exec (Store.read config actorId query) other).1 ∧
      ∀ table, store.backend.table? config.name = .ok table → ∃ outcome,
        exec (Store.read config actorId query) store = (.ok outcome, store) ∧
        exec (Store.read config actorId query) other = (.ok outcome, other) := by
  have hother : other.registry.resolve actorId = .ok actor := hsame.registry ▸ hactor
  have htables := hsame.tables config.name
  generalize hfound : store.backend.tables.get? config.name = table? at htables
  generalize hfound' : other.backend.tables.get? config.name = table'? at htables
  cases htables with
  | none =>
    have hmissing := Backend.table?_eq_error.2 hfound
    have hmissing' := Backend.table?_eq_error.2 hfound'
    rw [Store.exec_read, Store.exec_read, hactor, hother, ok_bind, ok_bind, hmissing, hmissing']
    exact ⟨rfl, fun table htable => by cases htable⟩
  | @some table table' hlooks =>
    have htable := Backend.table?_eq_ok.2 hfound
    have htable' := Backend.table?_eq_ok.2 hfound'
    have hreduce := hlooks.reduce_select (halike table table' htable htable')
    rw [read_ok hactor htable query, read_ok hother htable' query, hreduce]
    exact ⟨rfl, fun _ _ => ⟨_, rfl, rfl⟩⟩

/-- Two salaries that the actor may not read, in a page of a sorted and projected selection. -/
theorem read_indifferent_salary :
    let member : Member := ⟨"bob", []⟩
    let entry (salary : Int32) : Entry :=
      ⟨[("_id", .string "1"), ("name", .string "Ann"), ("salary", .int32 salary)],
        (Twin.empty "1").set "salary" { read := ["hr"] }⟩
    let store (salary : Int32) : Store := ⟨(Registry.empty "root").insert member, .empty,
      Backend.empty.withTable "people" ⟨[entry salary]⟩⟩
    let query : Query :=
      { projection := ["name", "salary"], limit := some 1, sort := some ⟨"name", .ascending⟩ }
    (store 3).registry.resolve "bob" = .ok (.member member) ∧
      (store 3).LooksSame (.member member) (store 4) ∧
      query.TreatsAlike (entry 3) (entry 4) ∧
      ∃ outcome,
        exec (Store.read { name := "people" } "bob" query) (store 3) = (.ok outcome, store 3) ∧
        exec (Store.read { name := "people" } "bob" query) (store 4) = (.ok outcome, store 4) := by
  intro member entry store query
  have hactor : (store 3).registry.resolve "bob" = .ok (.member member) := rfl
  have htable : ∀ salary, (store salary).backend.table? "people" = .ok ⟨[entry salary]⟩ :=
    fun _ => rfl
  have hentry : (entry 3).LooksSame (.member member) (entry 4) :=
    ⟨rfl, rfl, .inl rfl, rfl, .inl rfl, rfl, .inr ⟨rfl, rfl, rfl⟩, trivial⟩
  have hstore : (store 3).LooksSame (.member member) (store 4) := by
    refine ⟨rfl, rfl, fun name => ?_⟩
    simp only [store, Backend.get?_withTable]
    split
    · exact .some (.cons hentry .nil)
    · exact .none
  have halike : query.TreatsAlike (entry 3) (entry 4) :=
    ⟨rfl, fun key hkey => by rw [← Option.some.inj hkey]; rfl⟩
  obtain ⟨-, hread⟩ :=
    read_indifferent { name := "people" } hactor hstore query fun table table' h h' => by
      obtain rfl := Except.ok.inj ((htable 3).symm.trans h)
      obtain rfl := Except.ok.inj ((htable 4).symm.trans h')
      exact .cons halike .nil
  exact ⟨hactor, hstore, halike, hread _ (htable 3)⟩

end FieldGuard
