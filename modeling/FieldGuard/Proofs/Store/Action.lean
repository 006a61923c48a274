import FieldGuard.Proofs.Error
import FieldGuard.Proofs.Permission.Restriction
import FieldGuard.Proofs.Table
import FieldGuard.Store.Reading
import FieldGuard.Store.Writing

/-!
# Running actions

Every action of a store either fails and changes nothing, or succeeds and does what a plain
function of the store says:

* `exec`, `settle`: how an action ends, and how it ends if it follows a plan;
* `exec_read`, `exec_create`, `exec_update`, `exec_remove`: the plans of what is done with records;
* `exec_registerActor`, `exec_revokeActor`, `exec_registerCollection`, `exec_dropCollection`: the
  others.
-/

namespace FieldGuard

/-! ## Ends of actions -/

section

variable {σ α β : Type}

/-- How an action ends: its result or an error, and the state afterwards. -/
def exec (action : ExceptT Error (StateM σ) α) (state : σ) : Except Error α × σ :=
  (action.run.run state).run

@[simp] theorem exec_pure (a : α) (state : σ) :
    exec (pure a) state = (.ok a, state) := rfl

theorem exec_bind (action : ExceptT Error (StateM σ) α) (next : α → ExceptT Error (StateM σ) β)
    (state : σ) :
    exec (action >>= next) state =
      match exec action state with
      | (.ok a, state') => exec (next a) state'
      | (.error e, state') => (.error e, state') := by
  simp only [exec, ExceptT.run_bind, StateT.run_bind, Id.run_bind]
  rcases (StateT.run (ExceptT.run action) state).run with ⟨_ | _, _⟩ <;> rfl

@[simp] theorem exec_throw (e : Error) (state : σ) :
    exec (throw e : ExceptT Error (StateM σ) α) state = (.error e, state) := rfl

@[simp] theorem exec_get (state : σ) : exec get state = (.ok state, state) := rfl

@[simp] theorem exec_modify (f : σ → σ) (state : σ) :
    exec (modify f) state = (.ok (), f state) := rfl

@[simp] theorem exec_ofExcept (result : Except Error α) (state : σ) :
    exec (MonadExcept.ofExcept result) state = (result, state) := by
  cases result <;> rfl

/-- What succeeds has a result. -/
theorem exists_exec_eq_ok {action : ExceptT Error (StateM σ) α} {state : σ}
    (h : (exec action state).1.isOk = true) : ∃ a state', exec action state = (.ok a, state') := by
  rcases hexec : exec action state with ⟨_ | a, state'⟩
  · rw [hexec] at h
    cases h
  · exact ⟨a, state', rfl⟩

/-- How an action ends that follows a plan: in the state planned, or in the one before if the plan
fails. -/
def settle (state : σ) (plan : Except Error (α × σ)) : Except Error α × σ :=
  match plan with
  | .ok (a, state') => (.ok a, state')
  | .error e => (.error e, state)

theorem settle_eq_ok {state state' : σ} {plan : Except Error (α × σ)} {a : α} :
    settle state plan = (.ok a, state') ↔ plan = .ok (a, state') := by
  rcases plan with e | ⟨b, planned⟩ <;> simp [settle]

/-- What fails changes nothing. -/
theorem settle_eq_error {state state' : σ} {plan : Except Error (α × σ)} {e : Error} :
    settle state plan = (.error e, state') ↔ plan = .error e ∧ state = state' := by
  rcases plan with e | ⟨b, planned⟩ <;> simp [settle]

end

/-! ## Actions on the storage -/

namespace Backend

variable (name : String) (backend : Backend)

/-- The table of a collection, if there is one. -/
def table? : Except Error Table :=
  match backend.tables.get? name with
  | some table => .ok table
  | none => .error (.collectionNotFound name)

/-- The storage with a table put in the place of that of a collection. -/
def withTable (table : Table) : Backend :=
  ⟨backend.tables.insert name table⟩

theorem table?_eq_ok {name : String} {backend : Backend} {table : Table} :
    backend.table? name = .ok table ↔ backend.tables.get? name = some table := by
  unfold table?
  cases backend.tables.get? name <;> simp

theorem table?_eq_error {name : String} {backend : Backend} :
    backend.table? name = .error (.collectionNotFound name) ↔ backend.tables.get? name = none := by
  unfold table?
  cases backend.tables.get? name <;> simp

theorem get?_withTable (table : Table) (other : String) :
    (backend.withTable name table).tables.get? other =
      if other = name then some table else backend.tables.get? other :=
  SortedDict.get?_insert _ _ _ _

theorem table?_withTable (backend : Backend) (name : String) (table : Table) :
    (backend.withTable name table).table? name = .ok table := by
  rw [table?_eq_ok, get?_withTable, if_pos rfl]

theorem contains_withTable {backend : Backend} {name : String} {old : Table}
    (h : backend.table? name = .ok old) (table : Table) (other : String) :
    (backend.withTable name table).tables.contains other = backend.tables.contains other := by
  rw [withTable, SortedDict.contains_insert]
  by_cases hother : other = name
  · have hold : backend.tables.contains other = true := by
      rw [hother, SortedDict.contains, table?_eq_ok.1 h]
      rfl
    rw [hold, Bool.or_true]
  · rw [decide_eq_false hother, Bool.false_or]

theorem exec_table : exec (table name) backend = (backend.table? name, backend) := by
  rw [table, exec_bind, exec_get, table?]
  dsimp only
  cases backend.tables.get? name <;> rfl

theorem exec_select (query : Query) :
    exec (select name query) backend = settle backend (do
      let table ← backend.table? name
      return (table.select query, backend)) := by
  rw [select, exec_bind, exec_table]
  cases backend.table? name <;> rfl

/-- A table with entries put at its end, unless an identifier is taken. -/
def insertIn (table : Table) (entries : List Entry) : Except Error Table :=
  match Table.firstTaken? table.ids entries with
  | some id => .error (.recordAlreadyExists id name)
  | none => .ok (table.append entries)

theorem exec_insertEntries (entries : List Entry) :
    exec (insertEntries name entries) backend = settle backend (do
      let table ← backend.table? name
      let table' ← insertIn name table entries
      return ((), backend.withTable name table')) := by
  rw [insertEntries, exec_bind, exec_table]
  cases backend.table? name with
  | error e => rfl
  | ok table =>
    rw [ok_bind, insertIn]
    dsimp only
    cases Table.firstTaken? table.ids entries <;> rfl

/-- A table with records put in the place of those stored under their identifiers, unless one of
them is not stored. -/
def replaceIn (table : Table) (records : List Document) : Except Error Table := do
  let ids ← records.mapM (storedId name table)
  return table.replaceAll (ids.zip records)

theorem exec_replaceRecords (records : List Document) :
    exec (replaceRecords name records) backend = settle backend (do
      let table ← backend.table? name
      let table' ← replaceIn name table records
      return ((), backend.withTable name table')) := by
  rw [replaceRecords, exec_bind, exec_table]
  cases backend.table? name with
  | error e => rfl
  | ok table =>
    change exec (_ >>= _) backend = _
    rw [exec_bind, exec_ofExcept]
    change _ = settle backend (replaceIn name table records >>= _)
    rw [replaceIn]
    cases records.mapM (storedId name table) <;> rfl

theorem exec_createCollection :
    exec (createCollection name) backend =
      (.ok (),
        if backend.tables.contains name then backend else backend.withTable name .empty) := by
  rw [createCollection, exec_bind, exec_get]
  dsimp only
  cases backend.tables.contains name <;> rfl

theorem exec_dropCollection :
    exec (dropCollection name) backend = settle backend (do
      let _ ← backend.table? name
      return ((), ⟨backend.tables.erase name⟩)) := by
  rw [dropCollection, exec_bind, exec_table]
  cases backend.table? name <;> rfl

/-- Putting a table in its own place changes nothing. -/
theorem withTable_self {name : String} {backend : Backend} {table : Table}
    (h : backend.table? name = .ok table) : backend.withTable name table = backend := by
  unfold table? at h
  split at h
  · rename_i found hfound
    cases h
    rw [withTable, SortedDict.insert_self hfound]
  · cases h

/-- Only the table that is put last in the place of one stays. -/
theorem withTable_withTable (backend : Backend) (name : String) (old table : Table) :
    (backend.withTable name old).withTable name table = backend.withTable name table := by
  rw [withTable, withTable, withTable, SortedDict.insert_insert]

end Backend

/-! ## Actions on the store -/

namespace Store

variable (store : Store)

/-- The store with a table put in the place of that of a collection. -/
def withTable (name : String) (table : Table) : Store :=
  { store with backend := store.backend.withTable name table }

theorem withTable_withTable (name : String) (old table : Table) :
    (store.withTable name old).withTable name table = store.withTable name table := by
  rw [withTable, withTable, withTable, Backend.withTable_withTable]

theorem exec_onBackend {α : Type} (action : Backend.Action α) :
    exec (onBackend action) store =
      ((exec action store.backend).1, { store with backend := (exec action store.backend).2 }) := by
  rw [onBackend, exec_bind, exec_get]
  dsimp only
  rw [exec_bind]
  change exec (MonadExcept.ofExcept (exec action store.backend).1)
    { store with backend := (exec action store.backend).2 } = _
  rw [exec_ofExcept]

/-- What is done after something on the storage that follows a plan. -/
theorem exec_onBackend_bind {α β : Type} {action : Backend.Action α}
    {plan : Except Error (α × Backend)} (next : α → Action β) :
    exec action store.backend = settle store.backend plan →
      exec (onBackend action >>= next) store =
        match plan with
        | .ok (a, backend) => exec (next a) { store with backend }
        | .error e => (.error e, store) := by
  intro h
  rw [exec_bind, exec_onBackend, h]
  rcases plan with e | ⟨a, backend⟩ <;> rfl

theorem exec_resolve (id : String) :
    exec (resolve id) store = (store.registry.resolve id, store) := by
  rw [resolve, exec_bind, exec_get]
  exact exec_ofExcept _ _

theorem exec_registerActor (member : Member) :
    exec (registerActor member) store = settle store (do
      if store.registry.isTaken member.id then throw (.actorAlreadyExists member.id)
      return ((), { store with registry := store.registry.insert member })) := by
  rw [registerActor, exec_bind, exec_get]
  dsimp only
  cases store.registry.isTaken member.id <;> rfl

theorem exec_revokeActor (id : String) :
    exec (revokeActor id) store = settle store (do
      match store.registry.members.get? id with
      | some member => return (member, { store with registry := store.registry.erase id })
      | none => throw (.actorNotFound id)) := by
  rw [revokeActor, exec_bind, exec_get]
  dsimp only
  cases store.registry.members.get? id <;> rfl

theorem exec_registerCollection (config : Config) :
    exec (registerCollection config) store = settle store (do
      if store.configs.contains config.name then throw (.collectionAlreadyExists config.name)
      let backend := if store.backend.tables.contains config.name then store.backend
        else store.backend.withTable config.name .empty
      return ((), { store with backend, configs := store.configs.insert config.name config })) := by
  rw [registerCollection, exec_bind, exec_get]
  dsimp only
  cases store.configs.contains config.name with
  | true => rfl
  | false =>
    change exec (onBackend _ >>= _) store = _
    rw [exec_bind, exec_onBackend, Backend.exec_createCollection]
    rfl

theorem exec_collection (name : String) :
    exec (collection name) store = settle store (do
      match store.configs.get? name with
      | some config => return (config, store)
      | none => throw (.collectionNotFound name)) := by
  rw [collection, exec_bind, exec_get]
  dsimp only
  cases store.configs.get? name <;> rfl

theorem collection_eq_ok {store : Store} {name : String} {config : Config} :
    (exec (collection name) store).1 = .ok config ↔ store.configs.get? name = some config := by
  rw [exec_collection]
  cases store.configs.get? name with
  | none => simp [settle, throw, throwThe, MonadExceptOf.throw]
  | some found => simp [settle, pure, Except.pure]

theorem exec_collection_snd (name : String) : (exec (collection name) store).2 = store := by
  rw [exec_collection]
  cases store.configs.get? name <;> rfl

theorem exec_listCollections :
    exec listCollections store = (.ok store.backend.tables.keys, store) := rfl

theorem exec_dropCollection (name : String) :
    exec (dropCollection name) store = settle store (do
      match store.configs.get? name with
      | some _ =>
        let _ ← store.backend.table? name
        return ((), { store with backend := ⟨store.backend.tables.erase name⟩,
                                 configs := store.configs.erase name })
      | none => throw (.collectionNotFound name)) := by
  rw [dropCollection, exec_bind, exec_collection]
  cases store.configs.get? name with
  | none => rfl
  | some config =>
    refine (exec_onBackend_bind store _ (Backend.exec_dropCollection name store.backend)).trans ?_
    cases store.backend.table? name <;> rfl

/-! ## Reading and writing records -/

variable (config : Config) (actorId : String)

theorem exec_read (query : Query) :
    exec (read config actorId query) store = settle store (do
      let actor ← store.registry.resolve actorId
      let table ← store.backend.table? config.name
      return (.ofReduction (reduce actor (table.select query) .read), store)) := by
  rw [read, exec_bind, exec_resolve]
  cases store.registry.resolve actorId with
  | error e => rfl
  | ok actor =>
    change exec (reduceSelected _ _ _ _ >>= _) store = _
    rw [exec_bind, reduceSelected,
      exec_onBackend_bind store _ (Backend.exec_select config.name store.backend query)]
    cases store.backend.table? config.name <;> rfl

theorem exec_create (drafts : List Draft) (overrides : SortedDict Triple) (now : Int64) :
    exec (create config actorId drafts overrides now) store = settle store (do
      let _ ← store.registry.resolve actorId
      let entries ← drafts.mapM fun draft => draft.toEntry config overrides ⟨now, actorId⟩
      let table ← store.backend.table? config.name
      let table' ← Backend.insertIn config.name table entries
      return (.make (entries.map (·.record)) false false .empty,
        store.withTable config.name table')) := by
  rw [create, exec_bind, exec_resolve]
  cases store.registry.resolve actorId with
  | error e => rfl
  | ok actor =>
    change exec (MonadExcept.ofExcept _ >>= _) store = settle store (_ >>= _)
    rw [exec_bind, exec_ofExcept]
    cases drafts.mapM fun draft => draft.toEntry config overrides ⟨now, actorId⟩ with
    | error e => rfl
    | ok entries =>
      refine (exec_onBackend_bind store _
        (Backend.exec_insertEntries config.name store.backend entries)).trans ?_
      cases store.backend.table? config.name with
      | error e => rfl
      | ok table =>
        simp only [ok_bind]
        cases Backend.insertIn config.name table entries <;> rfl

/-- The change that a patch makes to an entry that an actor updates. -/
def changeOf (actor : Actor) (stamp : Stamp) (patch : Document) (entry : Entry) :
    Except Error (Option Change) :=
  Change.update? config actor stamp (Record.content patch) entry (actor.redactEntry .update entry)

theorem exec_selectForWriting (actor : Actor) (query : Query) (operation : Operation) :
    exec (selectForWriting config actor query operation) store = settle store (do
      let table ← store.backend.table? config.name
      let selection := table.select { query with projection := [] }
      return ((selection.entries, reduce actor selection operation), store)) := by
  rw [selectForWriting, exec_onBackend_bind store _
    (Backend.exec_select config.name store.backend { query with projection := [] })]
  cases store.backend.table? config.name <;> rfl

/-- The outcome of changes. -/
def outcomeOf (reduction : Reduction) (changes : List Change) : Outcome :=
  .make (changes.map (·.view))
    (reduction.isRestricted || changes.any fun change => !change.unreadable.isEmpty)
    reduction.isLimited
    (changes.foldl (fun tally change => tally.countAll change.unreported) reduction.notPermitted)

/-- Writing no change is no case apart. -/
theorem exec_commit (reduction : Reduction) (changes : List Change) {table : Table}
    (h : store.backend.table? config.name = .ok table) :
    exec (commit config reduction changes) store = settle store (do
      let table' ← Backend.replaceIn config.name table (changes.map (·.record))
      return (outcomeOf reduction changes, store.withTable config.name table')) := by
  cases changes with
  | nil =>
    have hsame : store.withTable config.name table = store := by
      rw [withTable, Backend.withTable_self h]
    change (Except.ok (outcomeOf reduction []), store) =
      (Except.ok (outcomeOf reduction []), store.withTable config.name table)
    rw [hsame]
  | cons change rest =>
    have hcommit : commit config reduction (change :: rest) = (do
        onBackend (Backend.replaceRecords config.name ((change :: rest).map (·.record)))
        return outcomeOf reduction (change :: rest)) := rfl
    rw [hcommit, exec_onBackend_bind store _ (Backend.exec_replaceRecords config.name store.backend
      ((change :: rest).map (·.record))), h]
    simp only [ok_bind]
    cases Backend.replaceIn config.name table ((change :: rest).map (·.record)) <;> rfl

/-- The entries that a query selects go together with what the actor may see of them. -/
theorem zip_reduce_records (actor : Actor) (table : Table) (query : Query) (operation : Operation) :
    let selection := table.select { query with projection := [] }
    selection.entries.zip (reduce actor selection operation).records =
      (table.found query).map fun entry => (entry, actor.redactEntry operation entry) := by
  intro selection
  rw [reduce_records, table.select_whole_entries, List.map_prod_left_eq_zip]

theorem exec_update (query : Query) (patch : Document) (now : Int64) :
    exec (update config actorId query patch now) store = settle store (do
      let actor ← store.registry.resolve actorId
      let table ← store.backend.table? config.name
      let changes ← (table.found query).mapM (changeOf config actor ⟨now, actorId⟩ patch)
      let table' ← Backend.replaceIn config.name table ((changes.filterMap id).map (·.record))
      return (outcomeOf (reduce actor (table.select { query with projection := [] }) .update)
        (changes.filterMap id), store.withTable config.name table')) := by
  rw [update, exec_bind, exec_resolve]
  cases store.registry.resolve actorId with
  | error e => rfl
  | ok actor =>
    dsimp only
    rw [exec_bind, exec_selectForWriting, ok_bind]
    cases h : store.backend.table? config.name with
    | error e => rfl
    | ok table =>
      simp only [ok_bind]
      change exec (MonadExcept.ofExcept _ >>= _) store = _
      rw [exec_bind, exec_ofExcept, zip_reduce_records, List.mapM_map]
      have hchange : (fun selected : Entry × Redacted => Change.update? config actor
          ⟨now, actorId⟩ (Record.content patch) selected.1 selected.2) ∘
            (fun entry => (entry, actor.redactEntry .update entry)) =
          changeOf config actor ⟨now, actorId⟩ patch := rfl
      rw [hchange]
      cases (table.found query).mapM (changeOf config actor ⟨now, actorId⟩ patch) with
      | error e => rfl
      | ok changes => exact exec_commit store config _ _ h

theorem exec_remove (query : Query) (now : Int64) :
    exec (remove config actorId query now) store = settle store (do
      let actor ← store.registry.resolve actorId
      let table ← store.backend.table? config.name
      let removable := (table.found query).filter fun entry =>
        !(actor.redactEntry .remove entry).isRestricted
      let changes := removable.map (Change.removal actor ⟨now, actorId⟩)
      let table' ← Backend.replaceIn config.name table (changes.map (·.record))
      return (outcomeOf (reduce actor (table.select { query with projection := [] }) .remove)
        changes, store.withTable config.name table')) := by
  rw [remove, exec_bind, exec_resolve]
  cases store.registry.resolve actorId with
  | error e => rfl
  | ok actor =>
    dsimp only
    rw [exec_bind, exec_selectForWriting, ok_bind]
    cases h : store.backend.table? config.name with
    | error e => rfl
    | ok table =>
      simp only [ok_bind]
      change exec (commit config _ _) store = _
      rw [exec_commit store config _ _ h, zip_reduce_records, List.filter_map]
      simp only [List.map_map]
      rfl

end Store

end FieldGuard
