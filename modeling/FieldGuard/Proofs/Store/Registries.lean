import FieldGuard.Proofs.Store.Run

/-!
# The two registries of collections

A store has its own registry of collections and that of the storage underneath, and each changes one
after the other. As only what is registered is dropped, and only what is not is registered, they
change together and hold the same names.

* `Store.Agrees`: the two registries hold the same names;
* `Store.Agrees.exec_registerCollection`, `Store.Agrees.exec_dropCollection`: what registering and
  dropping then do;
* `Store.Agrees.next`: a request keeps the registries at one, and what it does to them;
* `Store.Reachable.isRegistered`: only registered collections have tables.
-/

namespace FieldGuard

/-- The collection that a request registers, if it succeeds. -/
def Request.registered? : Request → Option String
  | registerCollection config => some config.name
  | _ => none

/-- A request that neither registers nor drops a collection leaves both registries as they are. -/
theorem Request.contains_next {request : Request} (hregistered : request.registered? = none)
    (hdropped : request.dropped? = none) (store : Store) :
    (request.next store).configs = store.configs ∧ ∀ name,
      (request.next store).backend.tables.contains name = store.backend.tables.contains name := by
  have heffect := request.effect store
  generalize request.next store = store' at heffect ⊢
  cases heffect with
  | keep _ _ hconfigs hbackend =>
    rw [hconfigs, hbackend]
    exact ⟨rfl, fun _ => rfl⟩
  | registerCollection => cases hregistered
  | dropNone | dropCollection => cases hdropped
  | create _ _ htable _ | update htable _ | remove htable _ =>
    exact ⟨rfl, Backend.contains_withTable htable _⟩

namespace Store

/-- The collections registered are those in the storage. -/
def Agrees (store : Store) : Prop :=
  ∀ name, store.configs.contains name = store.backend.tables.contains name

variable {store : Store}

/-- A collection that is not registered is registered with an empty table. -/
theorem Agrees.exec_registerCollection (h : store.Agrees) (config : Config) :
    exec (registerCollection config) store = settle store
      (if store.configs.contains config.name then .error (.collectionAlreadyExists config.name)
      else .ok ((), { store with
        backend := store.backend.withTable config.name .empty
        configs := store.configs.insert config.name config })) := by
  rw [Store.exec_registerCollection, ← h config.name]
  cases store.configs.contains config.name <;> rfl

/-- A collection that is registered is dropped from both registries. -/
theorem Agrees.exec_dropCollection (h : store.Agrees) (name : String) :
    exec (dropCollection name) store = settle store
      (if store.configs.contains name then .ok ((), { store with
        backend := ⟨store.backend.tables.erase name⟩
        configs := store.configs.erase name })
      else .error (.collectionNotFound name)) := by
  rw [Store.exec_dropCollection]
  cases hconfig : store.configs.get? name with
  | none =>
    have hcontains : store.configs.contains name = false := by
      rw [SortedDict.contains, hconfig]
      rfl
    rw [hcontains]
    rfl
  | some config =>
    have hcontains : store.configs.contains name = true := by
      rw [SortedDict.contains, hconfig]
      rfl
    obtain ⟨table, htable⟩ := Option.isSome_iff_exists.1 ((h name).symm.trans hcontains)
    rw [hcontains, Backend.table?_eq_ok.2 htable]
    rfl

theorem Agrees.next_registerCollection (h : store.Agrees) (config : Config) :
    (Request.next store (.registerCollection config)).Agrees ∧
      ∀ name, (Request.next store (.registerCollection config)).configs.contains name =
        (decide (name = config.name) || store.configs.contains name) := by
  rw [Request.next, h.exec_registerCollection]
  split
  · rename_i hcontains
    refine ⟨h, fun name => ?_⟩
    by_cases hname : name = config.name
    · simp [settle, hname, hcontains]
    · simp [settle, hname]
  · refine ⟨fun name => ?_, fun name => SortedDict.contains_insert _ _ _ _⟩
    simp only [settle, Backend.withTable, SortedDict.contains_insert, h name]

theorem Agrees.next_dropCollection (h : store.Agrees) (dropped : String) :
    (Request.next store (.dropCollection dropped)).Agrees ∧
      ∀ name, (Request.next store (.dropCollection dropped)).configs.contains name =
        (!decide (name = dropped) && store.configs.contains name) := by
  rw [Request.next, h.exec_dropCollection]
  split
  · refine ⟨fun name => ?_, fun name => SortedDict.contains_erase _ _ _⟩
    simp only [settle, SortedDict.contains_erase, h name]
  · rename_i hcontains
    refine ⟨h, fun name => ?_⟩
    by_cases hname : name = dropped
    · simp [settle, hname, hcontains]
    · simp [settle, hname]

theorem Agrees.next_of_none (h : store.Agrees) {request : Request}
    (hregistered : request.registered? = none) (hdropped : request.dropped? = none) :
    (request.next store).Agrees ∧ ∀ name, (request.next store).configs.contains name = true ↔
      request.registered? = some name ∨
        request.dropped? ≠ some name ∧ store.configs.contains name = true := by
  obtain ⟨hconfigs, htables⟩ := request.contains_next hregistered hdropped store
  refine ⟨fun name => ?_, fun name => ?_⟩
  · rw [hconfigs, htables, h name]
  · rw [hconfigs, hregistered, hdropped]
    simp

/-- A request keeps the registries at one. A collection is registered afterwards if the request
registers it, or if it was before and the request does not drop it. -/
theorem Agrees.next (h : store.Agrees) (request : Request) :
    (request.next store).Agrees ∧ ∀ name, (request.next store).configs.contains name = true ↔
      request.registered? = some name ∨
        request.dropped? ≠ some name ∧ store.configs.contains name = true := by
  cases request with
  | registerCollection config =>
    obtain ⟨hagrees, hnames⟩ := h.next_registerCollection config
    refine ⟨hagrees, fun name => ?_⟩
    rw [hnames]
    simp [Request.registered?, Request.dropped?, @eq_comm _ name]
  | dropCollection dropped =>
    obtain ⟨hagrees, hnames⟩ := h.next_dropCollection dropped
    refine ⟨hagrees, fun name => ?_⟩
    rw [hnames]
    simp [Request.registered?, Request.dropped?, @eq_comm _ name]
  | _ => exact h.next_of_none rfl rfl

theorem Reachable.agrees (hr : store.Reachable) : store.Agrees := by
  induction hr with
  | empty config => exact fun _ => rfl
  | @next store request _ _ ih => exact (ih.next request).1

/-- A collection that has a table is registered. -/
theorem Reachable.isRegistered (hr : store.Reachable) {name : String} {table : Table}
    (htable : store.backend.tables.get? name = some table) :
    ∃ config, store.configs.get? name = some config := by
  have hcontains : store.backend.tables.contains name = true := by
    rw [SortedDict.contains, htable]
    rfl
  exact Option.isSome_iff_exists.1 ((hr.agrees name).trans hcontains)

end Store

end FieldGuard
