import FieldGuard.Proofs.Store.SystemField

/-!
# Runs of a store

The requests that a store serves, one after the other, and what each can do to the records.

* `Request.next`, `Store.after`: the store after a request, and after several;
* `Store.Reachable`: a store that requests lead to from an empty one;
* `Request.effect`: all that a request can do to a store, by the kinds of requests;
* `Table.Step`, `Backend.Step`: all that can be done to the records;
* `Request.step`: a request does nothing else, and puts its own drafts into its collection if it
  creates records;
* `Store.Reachable.forall_tables`: what these steps keep true of a table, runs keep true of all.
-/

namespace FieldGuard

/-! ## Lists that are split at an element -/

/-- A list that ends with an element splits there, or where it splits without it. -/
theorem exists_split_concat {α : Type} {P : List α → α → Prop} {Q : α → Prop} {xs : List α}
    {x : α} :
    (∃ before y later, xs ++ [x] = before ++ y :: later ∧ P before y ∧ ∀ z ∈ later, Q z) ↔
      P xs x ∨ Q x ∧ ∃ before y later, xs = before ++ y :: later ∧ P before y ∧
        ∀ z ∈ later, Q z := by
  constructor
  · rintro ⟨before, y, later, hsplit, hy, hlater⟩
    rcases List.eq_nil_or_concat later with rfl | ⟨later, last, rfl⟩
    · obtain ⟨rfl, hlast⟩ := List.append_inj' hsplit rfl
      obtain rfl := List.singleton_inj.1 hlast
      exact .inl hy
    · rw [List.concat_eq_append, ← List.cons_append, ← List.append_assoc] at hsplit
      obtain ⟨rfl, hlast⟩ := List.append_inj' hsplit rfl
      obtain rfl := List.singleton_inj.1 hlast
      obtain ⟨hlater, hx⟩ := List.forall_mem_append.1 (List.concat_eq_append ▸ hlater)
      exact .inr ⟨hx x (List.mem_singleton_self x), before, y, later, rfl, hy, hlater⟩
  · rintro (hx | ⟨hx, before, y, later, rfl, hy, hlater⟩)
    · exact ⟨xs, x, [], rfl, hx, fun _ h => nomatch h⟩
    · refine ⟨before, y, later ++ [x], by simp, hy, List.forall_mem_append.2 ⟨hlater, ?_⟩⟩
      exact List.forall_mem_singleton.2 hx

/-! ## Requests -/

/-- What a store may be asked for. The configuration of a collection need not be the one
registered at the time. -/
inductive Request where
  | registerActor (member : Member)
  | revokeActor (id : String)
  | registerCollection (config : Config)
  | dropCollection (name : String)
  | create (config : Config) (actorId : String) (drafts : List Draft)
      (overrides : SortedDict Triple) (now : Int64)
  | read (config : Config) (actorId : String) (query : Query)
  | update (config : Config) (actorId : String) (query : Query) (patch : Document) (now : Int64)
  | remove (config : Config) (actorId : String) (query : Query) (now : Int64)

namespace Request

/-- The store after a request, whether it succeeds or fails. -/
def next (store : Store) : Request → Store
  | registerActor member => (exec (Store.registerActor member) store).2
  | revokeActor id => (exec (Store.revokeActor id) store).2
  | registerCollection config => (exec (Store.registerCollection config) store).2
  | dropCollection name => (exec (Store.dropCollection name) store).2
  | create config actorId drafts overrides now =>
    (exec (Store.create config actorId drafts overrides now) store).2
  | read config actorId query => (exec (Store.read config actorId query) store).2
  | update config actorId query patch now =>
    (exec (Store.update config actorId query patch now) store).2
  | remove config actorId query now => (exec (Store.remove config actorId query now) store).2

/-- No document that comes with the request names a field twice: what a caller can hand over is an
ordered dictionary, in which a key has one value. -/
def WellFormed : Request → Prop
  | create _ _ drafts _ _ => ∀ draft ∈ drafts, draft.payload.DistinctKeys
  | update _ _ _ patch _ => patch.DistinctKeys
  | _ => True

/-- The collection that the request drops, if it succeeds. -/
def dropped? : Request → Option String
  | dropCollection name => some name
  | _ => none

/-- The drafts that the request puts into a collection: those of a creation that succeeds there. -/
def drafted (store : Store) (request : Request) (name : String) : List Draft :=
  match request with
  | create config actorId drafts overrides now =>
    match (exec (Store.create config actorId drafts overrides now) store).1 with
    | .ok _ => if config.name = name then drafts else []
    | .error _ => []
  | _ => []

end Request

namespace Store

/-- The store after some requests, one after the other. -/
def after (store : Store) (requests : List Request) : Store :=
  requests.foldl Request.next store

@[simp] theorem after_nil (store : Store) : store.after [] = store := rfl

@[simp] theorem after_cons (store : Store) (request : Request) (requests : List Request) :
    store.after (request :: requests) = (request.next store).after requests := rfl

theorem after_append (store : Store) (requests later : List Request) :
    store.after (requests ++ later) = (store.after requests).after later :=
  List.foldl_append

/-- A store that requests lead to from an empty one. -/
inductive Reachable : Store → Prop
  | empty (config : StoreConfig) : Reachable (.empty config)
  | next {store : Store} {request : Request} (h : Reachable store) (hw : request.WellFormed) :
      Reachable (request.next store)

theorem Reachable.after {store : Store} (h : Reachable store) {requests : List Request}
    (hw : ∀ request ∈ requests, request.WellFormed) : Reachable (store.after requests) := by
  induction requests generalizing store with
  | nil => exact h
  | cons request rest ih =>
    obtain ⟨hfirst, hrest⟩ := List.forall_mem_cons.1 hw
    exact ih (.next h hfirst) hrest

end Store

/-! ## Steps -/

/-- The ways of writing records anew. -/
inductive Rewrite : (Entry → Document) → Prop
  | patch (actor : Actor) (stamp : Stamp) {patch : Document} (hp : patch.DistinctKeys) :
      Rewrite (patched actor stamp patch)
  | delete (stamp : Stamp) : Rewrite fun entry => Record.stampDeleted entry.record stamp

/-- All that a request can do to the table of a collection: put new entries at its end, one for each
of its drafts, or write some of its records anew. -/
inductive Table.Step (name : String) (table : Table) : List Draft → Table → Prop
  | append {config : Config} {drafts : List Draft} {overrides : SortedDict Triple} {stamp : Stamp}
      {entries : List Entry} {table' : Table}
      (hw : ∀ draft ∈ drafts, draft.payload.DistinctKeys)
      (hentries : drafts.mapM (·.toEntry config overrides stamp) = .ok entries)
      (h : Backend.insertIn name table entries = .ok table') : Step name table drafts table'
  | rewrite {f : Entry → Document} {query : Query} {entries : List Entry} {table' : Table}
      (hf : Rewrite f) (hentries : entries.Sublist (table.found query))
      (h : Backend.replaceIn name table (entries.map f) = .ok table') : Step name table [] table'

/-- All that a request can do to the storage, the collection it drops and the drafts that it puts
into each collection being given. -/
inductive Backend.Step (dropped : Option String) (drafted : String → List Draft)
    (backend : Backend) : Backend → Prop
  | keep (hdrafted : ∀ name, drafted name = []) : Step dropped drafted backend backend
  | create {name : String} (hdrafted : ∀ name, drafted name = [])
      (h : backend.tables.contains name = false) :
      Step dropped drafted backend (backend.withTable name .empty)
  | drop {name : String} (hdrafted : ∀ name, drafted name = []) (h : dropped = some name) :
      Step dropped drafted backend ⟨backend.tables.erase name⟩
  | write {name : String} {table table' : Table}
      (hdrafted : ∀ other, other ≠ name → drafted other = []) (h : backend.table? name = .ok table)
      (hstep : Table.Step name table (drafted name) table') :
      Step dropped drafted backend (backend.withTable name table')

/-- An action that follows a plan succeeds or stays where it is. -/
theorem exec_cases {σ α : Type} {action : ExceptT Error (StateM σ) α} {state : σ}
    {plan : Except Error (α × σ)} (h : exec action state = settle state plan) :
    (∃ e, exec action state = (.error e, state)) ∨
      ∃ a state', exec action state = (.ok a, state') := by
  rw [h]
  rcases plan with e | ⟨a, state'⟩
  · exact .inl ⟨e, rfl⟩
  · exact .inr ⟨a, state', rfl⟩

/-- All that a request can do to a store. -/
inductive Request.Effect (store : Store) : Request → Store → Prop
  /-- A request that fails, that reads, or that is about actors. -/
  | keep {request : Request} {store' : Store} (hdropped : request.dropped? = none)
      (hdrafted : ∀ name, request.drafted store name = [])
      (hconfigs : store'.configs = store.configs) (hbackend : store'.backend = store.backend) :
      Effect store request store'
  | registerCollection {config : Config} {store' : Store}
      (hconfigs : store'.configs = store.configs.insert config.name config)
      (hbackend : store'.backend = store.backend ∨
        store.backend.tables.contains config.name = false ∧
          store'.backend = store.backend.withTable config.name .empty) :
      Effect store (.registerCollection config) store'
  /-- What is not there is not dropped. -/
  | dropNone {name : String}
      (h : store.configs.get? name = none ∨ store.backend.tables.get? name = none) :
      Effect store (.dropCollection name) store
  | dropCollection {name : String} {store' : Store}
      (hconfigs : store'.configs = store.configs.erase name)
      (hbackend : store'.backend = ⟨store.backend.tables.erase name⟩) :
      Effect store (.dropCollection name) store'
  | create {config : Config} {actorId : String} {drafts : List Draft}
      {overrides : SortedDict Triple} {now : Int64} {entries : List Entry} {table table' : Table}
      (hdrafted : ∀ name, (Request.create config actorId drafts overrides now).drafted store name =
        if config.name = name then drafts else [])
      (hentries : drafts.mapM (·.toEntry config overrides ⟨now, actorId⟩) = .ok entries)
      (htable : store.backend.table? config.name = .ok table)
      (hinsert : Backend.insertIn config.name table entries = .ok table') :
      Effect store (.create config actorId drafts overrides now)
        (store.withTable config.name table')
  | update {config : Config} {actorId : String} {query : Query} {patch : Document} {now : Int64}
      {actor : Actor} {table table' : Table}
      (htable : store.backend.table? config.name = .ok table)
      (hreplace : Backend.replaceIn config.name table ((changed actor patch (table.found query)).map
        (patched actor ⟨now, actorId⟩ patch)) = .ok table') :
      Effect store (.update config actorId query patch now) (store.withTable config.name table')
  | remove {config : Config} {actorId : String} {query : Query} {now : Int64} {actor : Actor}
      {table table' : Table} (htable : store.backend.table? config.name = .ok table)
      (hreplace : Backend.replaceIn config.name table ((removable actor (table.found query)).map
        fun entry => Record.stampDeleted entry.record ⟨now, actorId⟩) = .ok table') :
      Effect store (.remove config actorId query now) (store.withTable config.name table')

/-- A request that neither drops a collection nor brings drafts may leave a store as it is. -/
theorem Request.Effect.same {store : Store} {request : Request} (hdropped : request.dropped? = none)
    (hdrafted : ∀ name, request.drafted store name = []) : request.Effect store store :=
  .keep hdropped hdrafted rfl rfl

theorem Request.effect_registerCollection (config : Config) (store : Store) :
    (Request.registerCollection config).Effect store (next store (.registerCollection config)) := by
  rw [next, Store.exec_registerCollection]
  cases store.configs.contains config.name with
  | true => exact .same rfl fun _ => rfl
  | false =>
    refine .registerCollection rfl ?_
    cases h : store.backend.tables.contains config.name with
    | true => exact .inl rfl
    | false => exact .inr ⟨rfl, rfl⟩

theorem Request.effect_dropCollection (name : String) (store : Store) :
    (Request.dropCollection name).Effect store (next store (.dropCollection name)) := by
  rw [next, Store.exec_dropCollection]
  cases hconfig : store.configs.get? name with
  | none => exact .dropNone (.inl hconfig)
  | some config =>
    cases htable : store.backend.tables.get? name with
    | none =>
      rw [Backend.table?_eq_error.2 htable]
      exact .dropNone (.inr htable)
    | some table =>
      rw [Backend.table?_eq_ok.2 htable]
      exact .dropCollection rfl rfl

theorem Request.effect (request : Request) (store : Store) :
    request.Effect store (request.next store) := by
  cases request with
  | registerActor member =>
    rw [next, Store.exec_registerActor]
    cases store.registry.isTaken member.id <;> exact .keep rfl (fun _ => rfl) rfl rfl
  | revokeActor id =>
    rw [next, Store.exec_revokeActor]
    cases store.registry.members.get? id <;> exact .keep rfl (fun _ => rfl) rfl rfl
  | registerCollection config => exact effect_registerCollection config store
  | dropCollection name => exact effect_dropCollection name store
  | create config actorId drafts overrides now =>
    rcases exec_cases (store.exec_create config actorId drafts overrides now) with
      ⟨e, h⟩ | ⟨outcome, store', h⟩
    · rw [next, h]
      exact .same rfl fun _ => by simp only [drafted, h]
    · obtain ⟨entries, table, table', hentries, htable, htable', rfl, -⟩ := create_payload h
      rw [next, h]
      exact .create (fun _ => by simp only [drafted, h]) hentries htable htable'
  | read config actorId query =>
    rcases exec_cases (store.exec_read config actorId query) with ⟨e, h⟩ | ⟨outcome, store', h⟩
    · rw [next, h]
      exact .same rfl fun _ => rfl
    · obtain ⟨actor, table, -, -, rfl, -⟩ := read_payload h
      rw [next, h]
      exact .same rfl fun _ => rfl
  | update config actorId query patch now =>
    rcases exec_cases (store.exec_update config actorId query patch now) with
      ⟨e, h⟩ | ⟨outcome, store', h⟩
    · rw [next, h]
      exact .same rfl fun _ => rfl
    · obtain ⟨actor, table, table', -, htable, htable', rfl, -⟩ := update_payload h
      rw [next, h]
      exact .update htable htable'
  | remove config actorId query now =>
    rcases exec_cases (store.exec_remove config actorId query now) with
      ⟨e, h⟩ | ⟨outcome, store', h⟩
    · rw [next, h]
      exact .same rfl fun _ => rfl
    · obtain ⟨actor, table, table', -, htable, htable', rfl, -⟩ := remove_payload h
      rw [next, h]
      exact .remove htable htable'

theorem Request.step {request : Request} (hw : request.WellFormed) (store : Store) :
    Backend.Step request.dropped? (request.drafted store) store.backend
      (request.next store).backend := by
  have heffect := request.effect store
  generalize request.next store = store' at heffect
  cases heffect with
  | keep _ hdrafted _ hbackend =>
    rw [hbackend]
    exact .keep hdrafted
  | dropNone _ => exact .keep fun _ => rfl
  | registerCollection _ hbackend =>
    rcases hbackend with hbackend | ⟨hnew, hbackend⟩ <;> rw [hbackend]
    · exact .keep fun _ => rfl
    · exact .create (fun _ => rfl) hnew
  | dropCollection _ hbackend =>
    rw [hbackend]
    exact .drop (fun _ => rfl) rfl
  | create hdrafted hentries htable hinsert =>
    refine .write (fun other hother => ?_) htable ?_
    · rw [hdrafted, if_neg (Ne.symm hother)]
    · rw [hdrafted, if_pos rfl]
      exact .append hw hentries hinsert
  | @update config actorId query patch now actor _ _ htable hreplace =>
    exact .write (fun _ _ => rfl) htable
      (.rewrite (.patch actor ⟨now, actorId⟩ hw) List.filter_sublist hreplace)
  | @remove config actorId query now _ _ _ htable hreplace =>
    exact .write (fun _ _ => rfl) htable
      (.rewrite (.delete ⟨now, actorId⟩) List.filter_sublist hreplace)

section

variable {dropped : Option String} {drafted : String → List Draft} {backend backend' : Backend}
  {name : String}

/-- A table stays as it is or takes a step, unless its collection is dropped. -/
theorem Backend.Step.table {table : Table} (hstep : Backend.Step dropped drafted backend backend')
    (htable : backend.tables.get? name = some table) (hdropped : dropped ≠ some name) :
    ∃ table', backend'.tables.get? name = some table' ∧
      (drafted name = [] ∧ table' = table ∨ Table.Step name table (drafted name) table') := by
  cases hstep with
  | keep hdrafted => exact ⟨table, htable, .inl ⟨hdrafted name, rfl⟩⟩
  | @create other hdrafted hnew =>
    refine ⟨table, ?_, .inl ⟨hdrafted name, rfl⟩⟩
    have hne : name ≠ other := by
      rintro rfl
      rw [SortedDict.contains, htable] at hnew
      cases hnew
    rw [withTable, SortedDict.get?_insert, if_neg hne, htable]
  | @drop other hdrafted hother =>
    refine ⟨table, ?_, .inl ⟨hdrafted name, rfl⟩⟩
    have hne : name ≠ other := fun e => hdropped (hother.trans (congrArg some e.symm))
    rw [SortedDict.get?_erase, if_neg hne, htable]
  | @write other found table' hdrafted hfound htableStep =>
    by_cases hname : name = other
    · subst hname
      rw [table?, htable] at hfound
      cases hfound
      exact ⟨table', by rw [withTable, SortedDict.get?_insert, if_pos rfl], .inr htableStep⟩
    · refine ⟨table, ?_, .inl ⟨hdrafted name hname, rfl⟩⟩
      rw [withTable, SortedDict.get?_insert, if_neg hname, htable]

/-- A table that was not there before is one without entries. -/
theorem Backend.Step.new_table {table' : Table}
    (hstep : Backend.Step dropped drafted backend backend')
    (hnone : backend.tables.get? name = none) (htable' : backend'.tables.get? name = some table') :
    table' = .empty := by
  cases hstep with
  | keep hdrafted =>
    rw [hnone] at htable'
    cases htable'
  | @create other hdrafted hnew =>
    rw [withTable, SortedDict.get?_insert] at htable'
    split at htable'
    · exact (Option.some.inj htable').symm
    · rw [hnone] at htable'
      cases htable'
  | @drop other hdrafted hother =>
    rw [SortedDict.get?_erase, hnone] at htable'
    split at htable' <;> cases htable'
  | @write other found written hdrafted hfound htableStep =>
    rw [withTable, SortedDict.get?_insert] at htable'
    split at htable'
    · rename_i hname
      rw [table?, ← hname, hnone] at hfound
      cases hfound
    · rw [hnone] at htable'
      cases htable'

/-- What holds of a table without entries and is kept by every step of a table is kept of all
tables. -/
theorem Backend.Step.forall_tables {P : Table → Prop} (hempty : P .empty)
    (hkept : ∀ {name table table' drafts}, P table → Table.Step name table drafts table' → P table')
    (h : ∀ name table, backend.tables.get? name = some table → P table)
    (hstep : Backend.Step dropped drafted backend backend') :
    ∀ name table, backend'.tables.get? name = some table → P table := by
  intro name table htable
  cases hstep with
  | keep _ => exact h name table htable
  | create _ _ =>
    rw [get?_withTable] at htable
    split at htable
    · cases htable
      exact hempty
    · exact h name table htable
  | drop _ _ =>
    rw [SortedDict.get?_erase] at htable
    split at htable
    · cases htable
    · exact h name table htable
  | write _ hfound hwrite =>
    rw [get?_withTable] at htable
    split at htable
    · cases htable
      exact hkept (h _ _ (table?_eq_ok.1 hfound)) hwrite
    · exact h name table htable

end

theorem Store.Reachable.forall_tables {P : Table → Prop} (hempty : P .empty)
    (hkept : ∀ {name table table' drafts}, P table → Table.Step name table drafts table' → P table')
    {store : Store} (h : store.Reachable) :
    ∀ name table, store.backend.tables.get? name = some table → P table := by
  induction h with
  | empty config =>
    intro name table htable
    cases htable
  | @next _ request _ hw ih => exact (request.step hw _).forall_tables hempty hkept ih

end FieldGuard
