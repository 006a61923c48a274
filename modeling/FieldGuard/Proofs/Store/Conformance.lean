import FieldGuard.Proofs.Store.Registries
import FieldGuard.Proofs.Store.Sound

/-!
# Records of the shape of their collection

A record is checked against the shape of its collection when it is created and whenever a patch is
written into it. As long as each request looks its collection up when it is served, what is checked
then is the shape that the collection is registered with, and a collection that was dropped leaves
no records to one that is registered under its name later.

* `Table.Conforms.append`, `Table.Conforms.rewrite`: what is written to a table keeps all of its
  records in shape if what is written is;
* `Store.IsConforming.next`: a request that looks its collection up keeps every registered
  collection in shape;
* `registered_shape_holds`: so every run of such requests does.
-/

namespace FieldGuard

/-! ## Requests that look their collection up -/

/-- The configuration that the request comes with is the one that looking up a name gives in the
store that serves it. -/
def Request.LooksUp (store : Store) : Request → Prop
  | create config _ _ _ _ | read config _ _ | update config _ _ _ _ | remove config _ _ _ =>
    ∃ name, (exec (Store.collection name) store).1 = .ok config
  | _ => True

/-- A store that requests lead to from an empty one, each looking its collection up. -/
inductive Store.ReachedByName : Store → Prop
  | empty (config : StoreConfig) : ReachedByName (.empty config)
  | next {store : Store} {request : Request} (h : ReachedByName store) (hw : request.WellFormed)
      (hlooks : request.LooksUp store) : ReachedByName (request.next store)

theorem Store.ReachedByName.reachable {store : Store} (h : store.ReachedByName) :
    store.Reachable := by
  induction h with
  | empty config => exact .empty config
  | next _ hw _ ih => exact .next ih hw

/-! ## Tables -/

/-- All records of the table, deleted or not, have the shape that a configuration asks for. -/
def Table.Conforms (config : Config) (table : Table) : Prop :=
  ∀ entry ∈ table.entries, config.validate entry.record = .ok ()

namespace Table.Conforms

variable {config : Config} {table table' : Table} {name : String} {entries : List Entry}

theorem empty (config : Config) : Table.empty.Conforms config :=
  fun _ hentry => absurd hentry List.not_mem_nil

theorem append (h : table.Conforms config)
    (hinsert : Backend.insertIn name table entries = .ok table')
    (hentries : ∀ entry ∈ entries, config.validate entry.record = .ok ()) :
    table'.Conforms config := by
  obtain ⟨-, rfl⟩ := Table.insertIn_eq_ok.1 hinsert
  exact List.forall_mem_append.2 ⟨h, hentries⟩

theorem rewrite (h : table.Conforms config) (hkeyed : table.IsKeyed) {f : Entry → Document}
    (hf : Rewrite f) {query : Query} (hentries : entries.Sublist (table.found query))
    (hreplace : Backend.replaceIn name table (entries.map f) = .ok table')
    (hnew : ∀ entry ∈ entries, config.validate (f entry) = .ok ()) : table'.Conforms config := by
  intro entry hentry
  rw [hkeyed.replaceIn hf hentries hreplace] at hentry
  obtain ⟨old, hold, rfl⟩ := List.mem_map.1 hentry
  rcases hkeyed.rewritten_cases f hentries hold with ⟨hmem, e⟩ | ⟨-, e⟩
  · change config.validate (Table.rewritten f entries old) = .ok ()
    rw [e, hnew old hmem]
  · change config.validate (Table.rewritten f entries old) = .ok ()
    rw [e, h old hold]

end Table.Conforms

/-! ## Stores -/

/-- Each registered collection goes by its own name and has a table, in shape. -/
structure Store.IsConforming (store : Store) : Prop where
  named : ∀ {name config}, store.configs.get? name = some config → config.name = name
  conforms : ∀ {name config}, store.configs.get? name = some config →
    ∃ table, store.backend.tables.get? name = some table ∧ table.Conforms config

namespace Store.IsConforming

variable {store store' : Store}

theorem empty (config : StoreConfig) : (Store.empty config).IsConforming :=
  ⟨fun {_ _} h => (nomatch h), fun {_ _} h => (nomatch h)⟩

theorem congr (h : store.IsConforming) (hconfigs : store'.configs = store.configs)
    (hbackend : store'.backend = store.backend) : store'.IsConforming :=
  ⟨fun hget => h.named (hconfigs ▸ hget), fun hget => hbackend ▸ h.conforms (hconfigs ▸ hget)⟩

/-- A collection that is looked up is registered under its own name. -/
theorem registered (h : store.IsConforming) {config : Config}
    (hlooks : ∃ name, (exec (Store.collection name) store).1 = .ok config) :
    store.configs.get? config.name = some config := by
  obtain ⟨name, hname⟩ := hlooks
  have hget := Store.collection_eq_ok.1 hname
  rw [h.named hget, hget]

theorem withTable (h : store.IsConforming) {config : Config} {table : Table}
    (hget : store.configs.get? config.name = some config) (htable : table.Conforms config) :
    (store.withTable config.name table).IsConforming := by
  refine ⟨h.named, fun {name other} hother => ?_⟩
  rw [Store.withTable, Backend.get?_withTable]
  split
  · rename_i hname
    rw [hname] at hother
    obtain rfl : config = other := Option.some.inj (hget.symm.trans hother)
    exact ⟨table, rfl, htable⟩
  · exact h.conforms hother

/-- A collection that is registered starts without records: one of its name would have to be
registered to have left any. -/
theorem registerCollection (h : store.IsConforming) (hr : store.Reachable) (config : Config) :
    ((Request.registerCollection config).next store).IsConforming := by
  cases hfree : store.configs.contains config.name with
  | true =>
    rw [Request.next, Store.exec_registerCollection, hfree]
    exact h
  | false =>
    have hnew : store.backend.tables.contains config.name = false := by
      rw [SortedDict.contains, Option.isSome_eq_false_iff, Option.isNone_iff_eq_none,
        Option.eq_none_iff_forall_ne_some] at hfree ⊢
      intro table htable
      obtain ⟨old, hold⟩ := hr.isRegistered htable
      exact hfree old hold
    have hnext : (Request.registerCollection config).next store =
        ⟨store.registry, store.configs.insert config.name config,
          store.backend.withTable config.name .empty⟩ := by
      rw [Request.next, Store.exec_registerCollection, hfree, hnew]
      rfl
    rw [hnext]
    constructor <;> intro name other hother <;> rw [SortedDict.get?_insert] at hother
    · split at hother
      · rename_i hname
        rw [hname, Option.some.inj hother]
      · exact h.named hother
    · rw [Backend.get?_withTable]
      by_cases hname : name = config.name
      · exact ⟨.empty, if_pos hname, Table.Conforms.empty _⟩
      · rw [if_neg hname] at hother ⊢
        exact h.conforms hother

theorem next (h : store.IsConforming) (hr : store.Reachable) {request : Request}
    (hw : request.WellFormed) (hlooks : request.LooksUp store) :
    (request.next store).IsConforming := by
  have hkeyed : ∀ {name table}, store.backend.table? name = .ok table → table.IsKeyed :=
    fun htable => (hr.isSound _ _ (Backend.table?_eq_ok.1 htable)).isKeyed
  have hold : ∀ {config table}, store.configs.get? config.name = some config →
      store.backend.table? config.name = .ok table → table.Conforms config := by
    intro config table hget htable
    obtain ⟨found, hfound, hconforms⟩ := h.conforms hget
    rw [Backend.table?_eq_ok, hfound] at htable
    exact Option.some.inj htable ▸ hconforms
  have heffect := request.effect store
  cases request with
  | registerCollection config => exact h.registerCollection hr config
  | registerActor _ | revokeActor _ | read _ _ _ =>
    generalize Request.next store _ = store' at heffect
    cases heffect with
    | keep _ _ hconfigs hbackend => exact h.congr hconfigs hbackend
  | dropCollection name =>
    generalize Request.next store _ = store' at heffect
    cases heffect with
    | keep hdropped _ _ _ => cases hdropped
    | dropNone _ => exact h
    | dropCollection hconfigs hbackend =>
      have hstill : ∀ {other config}, store'.configs.get? other = some config →
          other ≠ name ∧ store.configs.get? other = some config := by
        intro other config hget
        rw [hconfigs, SortedDict.get?_erase] at hget
        split at hget
        · cases hget
        · exact ⟨‹_›, hget⟩
      refine ⟨fun hget => h.named (hstill hget).2, fun hget => ?_⟩
      obtain ⟨hne, hget⟩ := hstill hget
      rw [hbackend, SortedDict.get?_erase, if_neg hne]
      exact h.conforms hget
  | create config actorId drafts overrides now =>
    have hget := h.registered hlooks
    generalize Request.next store _ = store' at heffect
    cases heffect with
    | keep _ _ hconfigs hbackend => exact h.congr hconfigs hbackend
    | create _ hentries htable hinsert =>
      refine h.withTable hget ((hold hget htable).append hinsert fun entry hentry => ?_)
      obtain ⟨draft, -, htoEntry⟩ := exists_of_mapM_eq_ok hentries hentry
      exact (Draft.toEntry_eq_ok htoEntry).2.2
  | update config actorId query patch now =>
    have hget := h.registered hlooks
    rcases exec_cases (store.exec_update config actorId query patch now) with
      ⟨e, hexec⟩ | ⟨outcome, store', hexec⟩
    · rw [Request.next, hexec]
      exact h
    · obtain ⟨actor, table, table', hactor, htable, hreplace, rfl, -⟩ := update_payload hexec
      rw [Request.next, hexec]
      exact h.withTable hget ((hold hget htable).rewrite (hkeyed htable)
        (.patch actor ⟨now, actorId⟩ hw) (changed_sublist _ _ _) hreplace
        (update_valid hexec hactor htable))
  | remove config actorId query now =>
    have hget := h.registered hlooks
    generalize Request.next store _ = store' at heffect
    cases heffect with
    | keep _ _ hconfigs hbackend => exact h.congr hconfigs hbackend
    | remove htable hreplace =>
      refine h.withTable hget ((hold hget htable).rewrite (hkeyed htable) (.delete ⟨now, actorId⟩)
        (removable_sublist _ _) hreplace fun entry hentry => ?_)
      have hmem := (Table.mem_found ((removable_sublist _ _).subset hentry)).1
      rw [config.validate_congr (Record.content_stampDeleted _), hold hget htable entry hmem]

end Store.IsConforming

theorem Store.ReachedByName.isConforming {store : Store} (h : store.ReachedByName) :
    store.IsConforming := by
  induction h with
  | empty config => exact .empty config
  | next h hw hlooks ih => exact ih.next h.reachable hw hlooks

/-- In every run whose requests look their collections up, all records of a collection that is
registered with a shape have that shape, the store's own fields aside. -/
theorem registered_shape_holds {store : Store} (hr : store.ReachedByName) {name : String}
    {config : Config} (hconfig : store.configs.get? name = some config) {shape : Shape}
    (hshape : config.shape = some shape) :
    ∃ table, store.backend.table? name = .ok table ∧
      ∀ entry ∈ table.entries, shape.validate (Record.content entry.record) = .ok () := by
  obtain ⟨table, htable, hconforms⟩ := hr.isConforming.conforms hconfig
  refine ⟨table, Backend.table?_eq_ok.2 htable, fun entry hentry => ?_⟩
  have hvalid := hconforms entry hentry
  rwa [Config.validate, hshape] at hvalid

/-- A collection without a shape is dropped and registered again with one; what was stored in it
before does not have that shape, and a person who is created, patched and removed later does. -/
theorem registered_shape_holds_again :
    let shape : Shape := .object [("name", .string), ("age", .optional .number)]
    let shapeless : Config := { name := "people" }
    let config : Config := { name := "people", shape := some shape }
    let other : Request := .create shapeless "superadmin" [⟨"1", [("age", .string "old")]⟩] .empty 1
    let creation : Request := .create config "superadmin"
      [⟨"2", [("name", .string "Ann"), ("age", .int32 3)]⟩] .empty 2
    let update : Request := .update config "superadmin" {} [("age", .null)] 3
    let removal : Request := .remove config "superadmin" {} 4
    let store := (Store.empty {}).after [.registerCollection shapeless, other,
      .dropCollection "people", .registerCollection config, creation, update, removal]
    store.ReachedByName ∧ store.configs.get? "people" = some config ∧ config.shape = some shape ∧
      ∃ table, store.backend.table? "people" = .ok table ∧
        table.entries.map (fun entry => (entry.id, Record.content entry.record,
          Record.isDeleted entry.record)) =
          [("2", [("name", .string "Ann"), ("age", .null)], true)] ∧
        ∀ entry ∈ table.entries, shape.validate (Record.content entry.record) = .ok () := by
  intro shape shapeless config other creation update removal store
  let people (entries : List Entry) : Store := ⟨.empty "superadmin",
    SortedDict.empty.insert "people" config, Backend.empty.withTable "people" ⟨entries⟩⟩
  let ann (updated : Stamp) (deleted age : Value) : Entry :=
    ⟨[("_id", .string "2"), ("_created", Stamp.toValue ⟨2, "superadmin"⟩),
      ("_updated", updated.toValue), ("_deleted", deleted), ("name", .string "Ann"), ("age", age)],
      config.twin "2" ["name", "age"] .empty⟩
  let shapelessPeople := (Request.registerCollection shapeless).next (.empty {})
  -- The collection that is dropped leaves nothing.
  have hdropped : (Request.dropCollection "people").next (other.next shapelessPeople) =
      Store.empty {} := by
    simp only [shapelessPeople, other, shapeless]
    rfl
  have hregistered : (Request.registerCollection config).next (.empty {}) = people [] := rfl
  have hcreated : creation.next (people []) =
      people [ann ⟨2, "superadmin"⟩ (.boolean false) (.int32 3)] := by
    simp only [creation, people, ann, config, shape]
    rfl
  have hupdated : update.next (people [ann ⟨2, "superadmin"⟩ (.boolean false) (.int32 3)]) =
      people [ann ⟨3, "superadmin"⟩ (.boolean false) .null] := by
    simp only [update, people, ann, config, shape]
    rfl
  have hremoved : removal.next (people [ann ⟨3, "superadmin"⟩ (.boolean false) .null]) =
      people [ann ⟨4, "superadmin"⟩ (Stamp.toValue ⟨4, "superadmin"⟩) .null] := by
    simp only [removal, people, ann, config, shape]
    rfl
  have hstore : store = removal.next (update.next (creation.next
      ((Request.registerCollection config).next ((Request.dropCollection "people").next
        (other.next shapelessPeople))))) := rfl
  have hr : store.ReachedByName := by
    have hlooks : ∀ entries, creation.LooksUp (people entries) := fun _ => ⟨"people", rfl⟩
    have hw : other.WellFormed ∧ creation.WellFormed ∧ update.WellFormed := by
      simp [other, creation, update, Request.WellFormed, Document.DistinctKeys,
        Value.DistinctKeys, Value.FieldsDistinctKeys]
    rw [hstore]
    refine .next (.next (.next (.next (.next (.next (.next (.empty {}) trivial trivial) hw.1
      ⟨"people", rfl⟩) trivial trivial) trivial trivial) hw.2.1 ?_) hw.2.2 ?_) trivial ?_
    · rw [hdropped, hregistered]
      exact hlooks _
    · rw [hdropped, hregistered, hcreated]
      exact hlooks _
    · rw [hdropped, hregistered, hcreated, hupdated]
      exact hlooks _
  rw [hdropped, hregistered, hcreated, hupdated, hremoved] at hstore
  have hconfig : store.configs.get? "people" = some config := by
    rw [hstore]
    rfl
  obtain ⟨table, htable, hvalid⟩ := registered_shape_holds hr hconfig rfl
  refine ⟨hr, hconfig, rfl, table, htable, ?_, hvalid⟩
  rw [hstore] at htable
  obtain rfl := Except.ok.inj ((Backend.table?_withTable _ _ _).symm.trans htable)
  simp only [ann, List.map_singleton, Entry.id, Config.twin_id]
  rfl

end FieldGuard
