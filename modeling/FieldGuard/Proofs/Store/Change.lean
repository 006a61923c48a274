import FieldGuard.Proofs.Store.Action

/-!
# Changes to records

What a change makes of a record and shows of it:

* `changeOf_eq_some`: a patch changes an entry if something of it is permitted and the result has
  the shape that the collection asks for;
* `withholds_readableView`, `withholds_patchChange`: what an actor is shown has no leaf within a
  path that it may not read, nor within one that an update withholds from it;
* `read_outcome`, `update_outcome`, `remove_outcome`: what is written and the outcome of it, of
  which `read_payload`, `update_payload` and `remove_payload` say the documents returned;
* `update_valid`: what an update writes has the shape that the collection asks for.
-/

namespace FieldGuard

/-! ## Views -/

/-- No leaf of the document lies within one of the paths. -/
def Document.Withholds (d : Document) (paths : List String) : Prop :=
  ∀ leaf ∈ Document.flatten d, Path.isWithinAny leaf.1 paths = false

namespace Actor

variable (actor : Actor) (twin : Twin)

/-- The superadmin is no case apart. -/
theorem readableView_eq (d : Document) :
    actor.readableView twin d =
      (Document.redact d (actor.restrictedPaths twin (Document.flatten d) .read),
        actor.restrictedPaths twin (Document.flatten d) .read) := by
  cases actor <;> rfl

theorem mem_flatten_readableView {d : Document} {leaf : String × Value}
    (h : leaf ∈ Document.flatten (actor.readableView twin d).1) : leaf ∈ Document.flatten d := by
  rw [readableView_eq] at h
  exact (mem_flatten_redact_restrictedPaths h).1

theorem withholds_readableView (d : Document) :
    (actor.readableView twin d).1.Withholds (actor.deniedPaths twin .read) := fun leaf hleaf => by
  rw [readableView_eq] at hleaf
  exact (mem_flatten_redact_restrictedPaths hleaf).2

theorem withholds_redactEntry (operation : Operation) (entry : Entry) :
    (actor.redactEntry operation entry).record.Withholds
      (actor.deniedPaths entry.permissions operation) := fun _ hleaf =>
  (mem_flatten_redact_restrictedPaths hleaf).2

/-- A document without the restricted paths of a record has no leaf within a denied path that
holds something in the record. -/
theorem withholds_redact_restrictedPaths (d flat : Document) (operation : Operation) :
    (Document.redact d (actor.restrictedPaths twin flat operation)).Withholds
      ((actor.deniedPaths twin operation).filter fun path => Document.holdsWithin flat path) := by
  intro leaf hleaf
  rw [← isWithinAny_restrictedPaths_eq]
  exact (Document.mem_flatten_redact hleaf).2

end Actor

/-! ## Changes by a patch -/

section

variable {config : Config} {actor : Actor} {stamp : Stamp} {patch : Document} {entry : Entry}
  {change : Change}

/-- What of a patch an actor may write to an entry. -/
def permitted (actor : Actor) (patch : Document) (entry : Entry) : Document :=
  let redacted := actor.redactEntry .update entry
  Document.permittedPatch (Value.commonFields [Record.content patch] redacted.record) entry.record
    redacted.restrictedPaths

/-- An entry's record after a patch. -/
def patched (actor : Actor) (stamp : Stamp) (patch : Document) (entry : Entry) : Document :=
  Record.stampUpdated (Document.merge entry.record (permitted actor patch entry)) stamp

/-- The change that makes a patched record of an entry's record. -/
def patchChange (actor : Actor) (stamp : Stamp) (patch : Document) (entry : Entry) : Change :=
  let paths := (actor.redactEntry .update entry).restrictedPaths
  let record := patched actor stamp patch entry
  Change.make actor entry.permissions record (Document.redact record paths) paths

theorem changeOf_eq :
    Store.changeOf config actor stamp patch entry =
      if permitted actor patch entry = [] then .ok none
      else (config.validate (patched actor stamp patch entry)).map
        fun _ => some (patchChange actor stamp patch entry) := by
  change (if (permitted actor patch entry).isEmpty = true then _ else _) = _
  simp only [List.isEmpty_iff]
  split
  · rfl
  · change (config.validate (patched actor stamp patch entry) >>= _) = _
    cases config.validate (patched actor stamp patch entry) <;> rfl

theorem changeOf_eq_none :
    Store.changeOf config actor stamp patch entry = .ok none ↔
      permitted actor patch entry = [] := by
  rw [changeOf_eq]
  split
  · rename_i h
    simp [h]
  · rename_i h
    cases config.validate (patched actor stamp patch entry) <;> simp [h, Except.map]

/-- A patch changes an entry if something of it is permitted and the result has the shape that
the collection asks for. -/
theorem changeOf_eq_some :
    Store.changeOf config actor stamp patch entry = .ok (some change) ↔
      permitted actor patch entry ≠ [] ∧
        config.validate (patched actor stamp patch entry) = .ok () ∧
        change = patchChange actor stamp patch entry := by
  rw [changeOf_eq]
  split
  · rename_i h
    simp [h]
  · rename_i h
    cases config.validate (patched actor stamp patch entry) <;> simp [h, Except.map, eq_comm]

/-- The entries of which a patch changes something. -/
def changed (actor : Actor) (patch : Document) (entries : List Entry) : List Entry :=
  entries.filter fun entry => !(permitted actor patch entry).isEmpty

theorem changed_sublist (actor : Actor) (patch : Document) (entries : List Entry) :
    (changed actor patch entries).Sublist entries :=
  List.filter_sublist

theorem mem_changed {entries : List Entry} :
    entry ∈ changed actor patch entries ↔ entry ∈ entries ∧ permitted actor patch entry ≠ [] := by
  simp [changed]

/-- If the changes to some entries succeed, they are those of the entries that change. -/
theorem changes_eq {entries : List Entry} {changes : List (Option Change)}
    (h : entries.mapM (Store.changeOf config actor stamp patch) = .ok changes) :
    changes.filterMap id = (changed actor patch entries).map (patchChange actor stamp patch) ∧
      ∀ entry ∈ changed actor patch entries,
        config.validate (patched actor stamp patch entry) = .ok () := by
  rw [mapM_eq_ok] at h
  induction h with
  | nil => exact ⟨rfl, by simp [changed]⟩
  | @cons entry change? entries changes hchange _ ih =>
    cases change? with
    | none =>
      have hnil := changeOf_eq_none.1 hchange
      have hchanged : changed actor patch (entry :: entries) = changed actor patch entries := by
        simp [changed, hnil]
      rwa [List.filterMap_cons_none rfl, hchanged]
    | some change =>
      obtain ⟨hne, hvalid, rfl⟩ := changeOf_eq_some.1 hchange
      have hchanged : changed actor patch (entry :: entries) =
          entry :: changed actor patch entries := by
        simp [changed, hne]
      rw [List.filterMap_cons_some (f := id) (b := patchChange actor stamp patch entry) rfl,
        hchanged, List.map_cons, ih.1]
      exact ⟨rfl, List.forall_mem_cons.2 ⟨hvalid, ih.2⟩⟩

theorem withholds_patchChange (actor : Actor) (stamp : Stamp) (patch : Document) (entry : Entry) :
    (patchChange actor stamp patch entry).view.Withholds
        (actor.deniedPaths entry.permissions .read) ∧
      (patchChange actor stamp patch entry).view.Withholds
        ((actor.deniedPaths entry.permissions .update).filter fun path =>
          Document.holdsWithin (Document.flatten entry.record) path) := by
  refine ⟨actor.withholds_readableView _ _, fun leaf hleaf => ?_⟩
  have hvisible := actor.mem_flatten_readableView entry.permissions hleaf
  exact actor.withholds_redact_restrictedPaths entry.permissions _ _ .update leaf hvisible

/-! ## Removals -/

/-- The entries of which nothing is withheld from removal. -/
def removable (actor : Actor) (entries : List Entry) : List Entry :=
  entries.filter fun entry => !(actor.redactEntry .remove entry).isRestricted

theorem removable_sublist (actor : Actor) (entries : List Entry) :
    (removable actor entries).Sublist entries :=
  List.filter_sublist

theorem withholds_removal (actor : Actor) (stamp : Stamp) (entry : Entry) :
    (Change.removal actor stamp entry).view.Withholds (actor.deniedPaths entry.permissions .read) :=
  actor.withholds_readableView _ _

end

/-! ## What is returned -/

section

variable {store store' : Store} {config : Config} {actorId : String} {query : Query}
  {outcome : Outcome}

theorem payload_ofReduction_reduce (actor : Actor) (selection : Selection)
    (operation : Operation) :
    (Outcome.ofReduction (reduce actor selection operation)).payload =
      selection.entries.map fun entry => (actor.redactEntry operation entry).record := by
  change Reduction.payload _ = _
  rw [Reduction.payload, reduce_records, List.map_map]
  rfl

theorem isLimited_ofReduction_reduce (actor : Actor) (selection : Selection)
    (operation : Operation) :
    (Outcome.ofReduction (reduce actor selection operation)).isLimited = selection.isLimited := by
  cases actor <;> rfl

/-- Reading succeeds if the actor and the collection are known. -/
theorem read_ok {actor : Actor} {table : Table}
    (hactor : store.registry.resolve actorId = .ok actor)
    (htable : store.backend.table? config.name = .ok table) (query : Query) :
    exec (Store.read config actorId query) store =
      (.ok (.ofReduction (reduce actor (table.select query) .read)), store) := by
  rw [Store.exec_read, hactor, ok_bind, htable, ok_bind]
  rfl

/-- Reading returns what the actor may see of the selection. -/
theorem read_outcome (h : exec (Store.read config actorId query) store = (.ok outcome, store')) :
    ∃ actor table, store.registry.resolve actorId = .ok actor ∧
      store.backend.table? config.name = .ok table ∧ store' = store ∧
      outcome = .ofReduction (reduce actor (table.select query) .read) := by
  rw [Store.exec_read, settle_eq_ok] at h
  obtain ⟨actor, hactor, h⟩ := bind_eq_ok.1 h
  obtain ⟨table, htable, h⟩ := bind_eq_ok.1 h
  cases h
  exact ⟨actor, table, hactor, htable, rfl, rfl⟩

/-- Reading returns the records selected, as far as the actor may see them. -/
theorem read_payload (h : exec (Store.read config actorId query) store = (.ok outcome, store')) :
    ∃ actor table, store.registry.resolve actorId = .ok actor ∧
      store.backend.table? config.name = .ok table ∧ store' = store ∧
      outcome.payload = (table.found query).map fun entry =>
        (actor.redactEntry .read (query.projectEntry entry)).record := by
  obtain ⟨actor, table, hactor, htable, hstore, rfl⟩ := read_outcome h
  refine ⟨actor, table, hactor, htable, hstore, ?_⟩
  rw [payload_ofReduction_reduce, Table.select_entries, List.map_map]
  rfl

/-- Creating puts the entries of the drafts at the end of the table and returns their records. -/
theorem create_payload {drafts : List Draft} {overrides : SortedDict Triple} {now : Int64}
    (h : exec (Store.create config actorId drafts overrides now) store = (.ok outcome, store')) :
    ∃ entries table table',
      drafts.mapM (fun draft => draft.toEntry config overrides ⟨now, actorId⟩) = .ok entries ∧
      store.backend.table? config.name = .ok table ∧
      Backend.insertIn config.name table entries = .ok table' ∧
      store' = store.withTable config.name table' ∧
      outcome.payload = entries.map (·.record) := by
  rw [Store.exec_create, settle_eq_ok] at h
  obtain ⟨actor, -, h⟩ := bind_eq_ok.1 h
  obtain ⟨entries, hentries, h⟩ := bind_eq_ok.1 h
  obtain ⟨table, htable, h⟩ := bind_eq_ok.1 h
  obtain ⟨table', htable', h⟩ := bind_eq_ok.1 h
  cases h
  exact ⟨entries, table, table', hentries, htable, htable', rfl, rfl⟩

/-- An update writes the entries selected that change, and returns the outcome of these changes. -/
theorem update_outcome {patch : Document} {now : Int64}
    (h : exec (Store.update config actorId query patch now) store = (.ok outcome, store')) :
    ∃ actor table table', store.registry.resolve actorId = .ok actor ∧
      store.backend.table? config.name = .ok table ∧
      Backend.replaceIn config.name table ((changed actor patch (table.found query)).map
        (patched actor ⟨now, actorId⟩ patch)) = .ok table' ∧
      store' = store.withTable config.name table' ∧
      outcome = Store.outcomeOf
        (reduce actor (table.select { query with projection := [] }) .update)
        ((changed actor patch (table.found query)).map
          (patchChange actor ⟨now, actorId⟩ patch)) := by
  rw [Store.exec_update, settle_eq_ok] at h
  obtain ⟨actor, hactor, h⟩ := bind_eq_ok.1 h
  obtain ⟨table, htable, h⟩ := bind_eq_ok.1 h
  obtain ⟨changes, hchanges, h⟩ := bind_eq_ok.1 h
  obtain ⟨hwritten, -⟩ := changes_eq hchanges
  rw [hwritten, List.map_map] at h
  obtain ⟨table', htable', h⟩ := bind_eq_ok.1 h
  cases h
  exact ⟨actor, table, table', hactor, htable, htable', rfl, rfl⟩

/-- An update writes the entries selected that change, and returns what the actor may see of
them. -/
theorem update_payload {patch : Document} {now : Int64}
    (h : exec (Store.update config actorId query patch now) store = (.ok outcome, store')) :
    ∃ actor table table', store.registry.resolve actorId = .ok actor ∧
      store.backend.table? config.name = .ok table ∧
      Backend.replaceIn config.name table ((changed actor patch (table.found query)).map
        (patched actor ⟨now, actorId⟩ patch)) = .ok table' ∧
      store' = store.withTable config.name table' ∧
      outcome.payload = (changed actor patch (table.found query)).map fun entry =>
        (patchChange actor ⟨now, actorId⟩ patch entry).view := by
  obtain ⟨actor, table, table', hactor, htable, htable', hstore, rfl⟩ := update_outcome h
  exact ⟨actor, table, table', hactor, htable, htable', hstore,
    by simp [Store.outcomeOf, Outcome.make]⟩

/-- What an update writes has the shape that the collection asks for. -/
theorem update_valid {patch : Document} {now : Int64} {actor : Actor} {table : Table}
    (h : exec (Store.update config actorId query patch now) store = (.ok outcome, store'))
    (hactor : store.registry.resolve actorId = .ok actor)
    (htable : store.backend.table? config.name = .ok table) :
    ∀ entry ∈ changed actor patch (table.found query),
      config.validate (patched actor ⟨now, actorId⟩ patch entry) = .ok () := by
  rw [Store.exec_update, settle_eq_ok, hactor, ok_bind, htable, ok_bind] at h
  obtain ⟨changes, hchanges, -⟩ := bind_eq_ok.1 h
  exact (changes_eq hchanges).2

/-- A removal writes the entries selected of which nothing is withheld from removal, and returns
the outcome of these changes. -/
theorem remove_outcome {now : Int64}
    (h : exec (Store.remove config actorId query now) store = (.ok outcome, store')) :
    ∃ actor table table', store.registry.resolve actorId = .ok actor ∧
      store.backend.table? config.name = .ok table ∧
      Backend.replaceIn config.name table ((removable actor (table.found query)).map
        fun entry => Record.stampDeleted entry.record ⟨now, actorId⟩) = .ok table' ∧
      store' = store.withTable config.name table' ∧
      outcome = Store.outcomeOf
        (reduce actor (table.select { query with projection := [] }) .remove)
        ((removable actor (table.found query)).map (Change.removal actor ⟨now, actorId⟩)) := by
  rw [Store.exec_remove, settle_eq_ok] at h
  obtain ⟨actor, hactor, h⟩ := bind_eq_ok.1 h
  obtain ⟨table, htable, h⟩ := bind_eq_ok.1 h
  dsimp only at h
  rw [List.map_map] at h
  obtain ⟨table', htable', h⟩ := bind_eq_ok.1 h
  cases h
  exact ⟨actor, table, table', hactor, htable, htable', rfl, rfl⟩

/-- A removal writes the entries selected of which nothing is withheld from removal, and returns
what the actor may read of them. -/
theorem remove_payload {now : Int64}
    (h : exec (Store.remove config actorId query now) store = (.ok outcome, store')) :
    ∃ actor table table', store.registry.resolve actorId = .ok actor ∧
      store.backend.table? config.name = .ok table ∧
      Backend.replaceIn config.name table ((removable actor (table.found query)).map
        fun entry => Record.stampDeleted entry.record ⟨now, actorId⟩) = .ok table' ∧
      store' = store.withTable config.name table' ∧
      outcome.payload = (removable actor (table.found query)).map fun entry =>
        (Change.removal actor ⟨now, actorId⟩ entry).view := by
  obtain ⟨actor, table, table', hactor, htable, htable', hstore, rfl⟩ := remove_outcome h
  exact ⟨actor, table, table', hactor, htable, htable', hstore,
    by simp [Store.outcomeOf, Outcome.make]⟩

end

end FieldGuard
