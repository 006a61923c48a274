import FieldGuard.Proofs.Store.Run

/-!
# Failures leave no trace

What fails changes nothing, be it a call of the store or one of its storage, in whatever state the
store is, and reading changes nothing anyway (`calls_keep_state`). Every call follows a plan: all
that may fail is settled before anything is changed (`Call.exists_plan`).
-/

namespace FieldGuard

/-- The calls of a store, and those of its storage that write several records at once, with what
they return. -/
inductive Call : Type → Type where
  | registerActor (member : Member) : Call Unit
  | revokeActor (id : String) : Call Member
  | registerCollection (config : Config) : Call Unit
  | dropCollection (name : String) : Call Unit
  | create (config : Config) (actorId : String) (drafts : List Draft)
      (overrides : SortedDict Triple) (now : Int64) : Call Outcome
  | read (config : Config) (actorId : String) (query : Query) : Call Outcome
  | update (config : Config) (actorId : String) (query : Query) (patch : Document) (now : Int64) :
      Call Outcome
  | remove (config : Config) (actorId : String) (query : Query) (now : Int64) : Call Outcome
  | insertEntries (name : String) (entries : List Entry) : Call Unit
  | replaceRecords (name : String) (records : List Document) : Call Unit

namespace Call

/-- What a call does. -/
def action {α : Type} : Call α → Store.Action α
  | registerActor member => Store.registerActor member
  | revokeActor id => Store.revokeActor id
  | registerCollection config => Store.registerCollection config
  | dropCollection name => Store.dropCollection name
  | create config actorId drafts overrides now =>
    Store.create config actorId drafts overrides now
  | read config actorId query => Store.read config actorId query
  | update config actorId query patch now => Store.update config actorId query patch now
  | remove config actorId query now => Store.remove config actorId query now
  | insertEntries name entries => Store.onBackend (Backend.insertEntries name entries)
  | replaceRecords name records => Store.onBackend (Backend.replaceRecords name records)

end Call

/-- What follows a plan on the storage follows one on the store. -/
theorem Store.exists_plan_onBackend {α : Type} {action : Backend.Action α} (store : Store)
    (h : ∃ plan, exec action store.backend = settle store.backend plan) :
    ∃ plan, exec (onBackend action) store = settle store plan := by
  obtain ⟨plan, hplan⟩ := h
  refine ⟨plan.map fun (a, backend) => (a, { store with backend }), ?_⟩
  rw [exec_onBackend, hplan]
  cases plan <;> rfl

theorem Call.exists_plan {α : Type} (call : Call α) (store : Store) :
    ∃ plan, exec call.action store = settle store plan := by
  cases call with
  | registerActor member => exact ⟨_, store.exec_registerActor member⟩
  | revokeActor id => exact ⟨_, store.exec_revokeActor id⟩
  | registerCollection config => exact ⟨_, store.exec_registerCollection config⟩
  | dropCollection name => exact ⟨_, store.exec_dropCollection name⟩
  | create config actorId drafts overrides now =>
    exact ⟨_, store.exec_create config actorId drafts overrides now⟩
  | read config actorId query => exact ⟨_, store.exec_read config actorId query⟩
  | update config actorId query patch now =>
    exact ⟨_, store.exec_update config actorId query patch now⟩
  | remove config actorId query now => exact ⟨_, store.exec_remove config actorId query now⟩
  | insertEntries name entries =>
    rw [action]
    exact store.exists_plan_onBackend ⟨_, Backend.exec_insertEntries name store.backend entries⟩
  | replaceRecords name records =>
    rw [action]
    exact store.exists_plan_onBackend ⟨_, Backend.exec_replaceRecords name store.backend records⟩

/-- In every state of a store, a call that fails leaves the actors, the collections registered and
all that is stored as they were, and reading does so whether it fails or not. -/
theorem calls_keep_state (store : Store) :
    (∀ {α : Type} (call : Call α) (e : Error) (store' : Store),
        exec call.action store = (.error e, store') → store' = store) ∧
      ∀ config actorId query, (exec (Store.read config actorId query) store).2 = store := by
  constructor
  · intro α call e store' h
    obtain ⟨plan, hplan⟩ := call.exists_plan store
    rw [hplan, settle_eq_error] at h
    exact h.2.symm
  · intro config actorId query
    rcases exec_cases (store.exec_read config actorId query) with ⟨e, h⟩ | ⟨outcome, store', h⟩
    · rw [h]
    · obtain ⟨actor, table, -, -, rfl, -⟩ := read_payload h
      rw [h]

/-- Batches of which a later part fails: the second of two new records has not the shape asked for,
two new entries have one identifier, and the second of two records to replace is not stored. The
storage may also know nothing of a collection that is registered and is to be dropped. -/
theorem calls_keep_state_batches :
    let config : Config := { name := "people", shape := some (.object [("age", .number)]) }
    let entry : Entry := ⟨[("_id", .string "2")], .empty "2"⟩
    let store := (Store.empty {}).after [.registerCollection config,
      .create config "superadmin" [⟨"1", [("age", .int32 3)]⟩] .empty 1]
    let create : Call Outcome := .create config "superadmin"
      [⟨"2", [("age", .int32 4)]⟩, ⟨"3", [("age", .string "old")]⟩] .empty 2
    let insert : Call Unit := .insertEntries "people" [entry, entry]
    let replace : Call Unit := .replaceRecords "people" [[("_id", .string "1")], entry.record]
    let drop : Call Unit := .dropCollection "people"
    let forgetful : Store := { store with backend := .empty }
    store.Reachable ∧
      ((exec create.action store).1.isOk = false ∧ (exec create.action store).2 = store) ∧
      exec insert.action store = (.error (.recordAlreadyExists "2" "people"), store) ∧
      exec replace.action store = (.error (.recordNotFound "2" "people"), store) ∧
      exec drop.action forgetful = (.error (.collectionNotFound "people"), forgetful) := by
  intro config entry store create insert replace drop forgetful
  have hr : store.Reachable := by
    refine (Store.Reachable.empty {}).after ?_
    simp [Request.WellFormed, Document.DistinctKeys, Value.DistinctKeys, Value.FieldsDistinctKeys]
  have hcreate : (exec create.action store).1.isOk = false := by
    simp only [create, store, config, Call.action]
    rw [Store.exec_create]
    rfl
  have hinsert : (exec insert.action store).1 = .error (.recordAlreadyExists "2" "people") := by
    simp only [insert, store, config, entry, Call.action]
    rw [Store.exec_onBackend, Backend.exec_insertEntries]
    rfl
  have hreplace : (exec replace.action store).1 = .error (.recordNotFound "2" "people") := by
    simp only [replace, store, config, entry, Call.action]
    rw [Store.exec_onBackend, Backend.exec_replaceRecords]
    rfl
  have hdrop : (exec drop.action forgetful).1 = .error (.collectionNotFound "people") := rfl
  refine ⟨hr, ⟨hcreate, ?_⟩, Prod.ext hinsert ?_, Prod.ext hreplace ?_, Prod.ext hdrop ?_⟩
  · rcases h : exec create.action store with ⟨e | outcome, store'⟩
    · exact (calls_keep_state store).1 create e store' h
    · rw [h] at hcreate
      cases hcreate
  · exact (calls_keep_state store).1 insert _ _ (Prod.ext hinsert rfl)
  · exact (calls_keep_state store).1 replace _ _ (Prod.ext hreplace rfl)
  · exact (calls_keep_state forgetful).1 drop _ _ (Prod.ext hdrop rfl)

end FieldGuard
