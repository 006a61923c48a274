import FieldGuard.Proofs.Store.Registries
import FieldGuard.Proofs.Text.Bytes
import Mathlib.Data.List.Induction

/-!
# Collections are kept apart

What a store says of its collections follows from the requests that it served: a collection is there
if it was registered and not dropped since. What is in it depends on the requests about it alone.

* `Request.about?`: the collection that a request is about;
* `Store.get?_after_of_ne`: requests about others leave a collection as it is;
* `Standing`: a collection is registered and has not been dropped since;
* `Store.agrees_after`: runs keep the two registries at one, and hold the collections that stand;
* `collections_isolated`: what a store says of its collections, at the end of a run.
-/

namespace FieldGuard

/-! ## Other collections -/

/-- The collection that a request is about. -/
def Request.about? : Request → Option String
  | registerActor _ | revokeActor _ => none
  | registerCollection config | create config .. | read config .. | update config ..
  | remove config .. => some config.name
  | dropCollection name => some name

/-- A request leaves the collections that it is not about as they are, whether it succeeds or
fails. -/
theorem Request.get?_next_of_ne {request : Request} {other : String}
    (h : request.about? ≠ some other) (store : Store) :
    (request.next store).configs.get? other = store.configs.get? other ∧
      (request.next store).backend.tables.get? other = store.backend.tables.get? other := by
  have hne : ∀ {name}, request.about? = some name → other ≠ name := by
    rintro name hname rfl
    exact h hname
  have heffect := request.effect store
  generalize request.next store = store' at heffect ⊢
  cases heffect with
  | keep _ _ hconfigs hbackend =>
    rw [hconfigs, hbackend]
    exact ⟨rfl, rfl⟩
  | registerCollection hconfigs hbackend =>
    rw [hconfigs, SortedDict.get?_insert, if_neg (hne rfl)]
    refine ⟨rfl, ?_⟩
    rcases hbackend with hbackend | ⟨-, hbackend⟩ <;> rw [hbackend]
    rw [Backend.get?_withTable, if_neg (hne rfl)]
  | dropNone _ => exact ⟨rfl, rfl⟩
  | dropCollection hconfigs hbackend =>
    rw [hconfigs, hbackend, SortedDict.get?_erase, SortedDict.get?_erase, if_neg (hne rfl),
      if_neg (hne rfl)]
    exact ⟨rfl, rfl⟩
  | create _ _ _ _ | update _ _ | remove _ _ =>
    rw [Store.withTable, Backend.get?_withTable, if_neg (hne rfl)]
    exact ⟨rfl, rfl⟩

/-- Requests about other collections leave a collection as it is. -/
theorem Store.get?_after_of_ne {requests : List Request} {other : String}
    (h : ∀ request ∈ requests, request.about? ≠ some other) (store : Store) :
    (store.after requests).configs.get? other = store.configs.get? other ∧
      (store.after requests).backend.tables.get? other = store.backend.tables.get? other := by
  induction requests generalizing store with
  | nil => exact ⟨rfl, rfl⟩
  | cons request rest ih =>
    obtain ⟨hfirst, hrest⟩ := List.forall_mem_cons.1 h
    obtain ⟨hconfig, htable⟩ := request.get?_next_of_ne hfirst store
    obtain ⟨hconfigs, htables⟩ := ih hrest (request.next store)
    exact ⟨hconfigs.trans hconfig, htables.trans htable⟩

/-! ## Runs -/

/-- A collection stands after some requests: one of them registers it, and none later drops it. -/
def Standing (requests : List Request) (name : String) : Prop :=
  ∃ before request later, requests = before ++ request :: later ∧
    request.registered? = some name ∧ ∀ other ∈ later, other.dropped? ≠ some name

theorem not_standing_nil (name : String) : ¬ Standing [] name := by
  rintro ⟨before, request, later, hrequests, -⟩
  simp at hrequests

theorem standing_concat {requests : List Request} {request : Request} {name : String} :
    Standing (requests ++ [request]) name ↔
      request.registered? = some name ∨
        request.dropped? ≠ some name ∧ Standing requests name :=
  exists_split_concat (P := fun _ (other : Request) => other.registered? = some name)

/-- Runs keep the registries at one, and hold the collections that stand. -/
theorem Store.agrees_after (config : StoreConfig) (requests : List Request) :
    ((Store.empty config).after requests).Agrees ∧ ∀ name,
      ((Store.empty config).after requests).configs.contains name = true ↔
        Standing requests name := by
  induction requests using List.reverseRecOn with
  | nil =>
    refine ⟨fun name => rfl, fun name => ?_⟩
    exact iff_of_false Bool.false_ne_true (not_standing_nil name)
  | append_singleton requests request ih =>
    obtain ⟨hagrees, hnames⟩ := ih
    obtain ⟨hagrees', hnames'⟩ := hagrees.next request
    rw [Store.after_append, Store.after_cons, Store.after_nil]
    refine ⟨hagrees', fun name => ?_⟩
    rw [hnames', standing_concat, hnames]

/-- At the end of every run from an empty store, the collections registered are those in the
storage. The names listed are those that stand, in the order of their bytes and none twice; these
can be looked up, and no others. What stands is not registered again, and goes when it is dropped;
what does not is not dropped, and registering it sets up a collection without records. Requests that
follow, whether they succeed or fail, leave the collections that they are not about as they are. -/
theorem collections_isolated (config : StoreConfig) (requests : List Request) :
    let store := (Store.empty config).after requests
    store.configs.keys = store.backend.tables.keys ∧
    (∃ names, exec Store.listCollections store = (.ok names, store) ∧
      names.Pairwise (fun a b => Text.bytes a < Text.bytes b) ∧ names.Nodup ∧
      ∀ name, name ∈ names ↔ Standing requests name) ∧
    (∀ name, (exec (Store.collection name) store).2 = store ∧
      ((∃ found, (exec (Store.collection name) store).1 = .ok found) ↔ Standing requests name)) ∧
    (∀ added : Config,
      (Standing requests added.name → exec (Store.registerCollection added) store =
        (.error (.collectionAlreadyExists added.name), store)) ∧
      (¬ Standing requests added.name → ∃ store',
        exec (Store.registerCollection added) store = (.ok (), store') ∧
        store'.configs.get? added.name = some added ∧
        store'.backend.tables.get? added.name = some .empty)) ∧
    (∀ name,
      (Standing requests name → ∃ store',
        exec (Store.dropCollection name) store = (.ok (), store') ∧
        store'.configs.get? name = none ∧ store'.backend.tables.get? name = none) ∧
      (¬ Standing requests name → exec (Store.dropCollection name) store =
        (.error (.collectionNotFound name), store))) ∧
    ∀ later other, (∀ request ∈ later, Request.about? request ≠ some other) →
      (store.after later).configs.get? other = store.configs.get? other ∧
      (store.after later).backend.tables.get? other = store.backend.tables.get? other := by
  intro store
  obtain ⟨hagrees, hstanding⟩ : store.Agrees ∧ ∀ name, store.configs.contains name = true ↔
      Standing requests name := Store.agrees_after config requests
  have hkeys := SortedDict.keys_eq_of_contains hagrees
  refine ⟨hkeys, ⟨_, store.exec_listCollections, store.backend.tables.keys_ascending,
    store.backend.tables.hasDistinctKeys, fun name => ?_⟩, fun name => ?_, fun added => ?_,
    fun name => ?_, fun later other hlater => store.get?_after_of_ne hlater⟩
  · rw [← hkeys, ← SortedDict.contains_iff_mem_keys, hstanding]
  · refine ⟨store.exec_collection_snd name, ?_⟩
    simp only [Store.collection_eq_ok]
    rw [← hstanding, SortedDict.contains, Option.isSome_iff_exists]
  · rw [← hstanding, hagrees.exec_registerCollection]
    refine ⟨fun hcontains => by rw [if_pos hcontains]; rfl, fun hcontains => ?_⟩
    rw [if_neg hcontains]
    refine ⟨_, rfl, ?_, ?_⟩
    · rw [SortedDict.get?_insert, if_pos rfl]
    · rw [Backend.get?_withTable, if_pos rfl]
  · rw [← hstanding, hagrees.exec_dropCollection]
    refine ⟨fun hcontains => ?_, fun hcontains => by rw [if_neg hcontains]; rfl⟩
    rw [if_pos hcontains]
    refine ⟨_, rfl, ?_, ?_⟩ <;> rw [SortedDict.get?_erase, if_pos rfl]

/-- A collection is dropped with a record in it and registered again, next to one that stays. -/
theorem collections_isolated_people :
    let people : Config := { name := "people" }
    let requests : List Request := [.registerCollection people,
      .registerCollection { name := "pets" },
      .create people "superadmin" [⟨"1", [("name", .string "Ann")]⟩] .empty 1,
      .dropCollection "people"]
    let store := (Store.empty {}).after requests
    exec Store.listCollections store = (.ok ["pets"], store) ∧
    Standing requests "pets" ∧ ¬ Standing requests "people" ∧
    (∃ store', exec (Store.registerCollection people) store = (.ok (), store') ∧
      store'.backend.tables.get? "people" = some .empty) ∧
    (store.after [.registerCollection people, .dropCollection "people"]).backend.tables.get?
      "pets" = store.backend.tables.get? "pets" := by
  intro people requests store
  obtain ⟨-, ⟨names, hlist, -, -, hnames⟩, -, hregister, -, hothers⟩ :=
    collections_isolated {} requests
  have hstore : (Store.empty {}).after requests = store := rfl
  rw [hstore] at hothers
  have hkeys : store.backend.tables.keys = ["pets"] := by
    simp only [store, requests, people]
    decide +kernel
  have hpets : exec Store.listCollections store = (.ok ["pets"], store) := by
    rw [Store.exec_listCollections, hkeys]
  obtain rfl : names = ["pets"] := by
    have hsame := hlist.symm.trans hpets
    exact Except.ok.inj (Prod.mk.inj hsame).1
  have hdropped : ¬ Standing requests "people" := by
    rw [← hnames]
    decide
  obtain ⟨store', hexec, -, htable⟩ := (hregister people).2 hdropped
  have hlater : ∀ request ∈ [Request.registerCollection people, .dropCollection "people"],
      request.about? ≠ some "pets" := by simp [Request.about?, people]
  exact ⟨hpets, (hnames "pets").1 (List.mem_singleton_self _), hdropped, ⟨store', hexec, htable⟩,
    (hothers _ "pets" hlater).2⟩

end FieldGuard
