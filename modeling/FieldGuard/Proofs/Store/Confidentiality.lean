import FieldGuard.Proofs.Store.Change

/-!
# Confidentiality of payloads

What reading, updating and removing return to a member holds nothing that the member may not read,
whatever the records and the patch look like (`payload_withholds_denied`). Each document of a
payload belongs to one of the entries selected: to each of them, in order, when reading; to those
that change, in order, when updating or removing.
-/

namespace FieldGuard

open Document (flatten holdsWithin Withholds)

/-- A member is returned no leaf within a path that requires a token for reading which the member
lacks. An update also returns no leaf within a path that requires a token for updating which the
member lacks, if the record held something there. -/
theorem payload_withholds_denied (store : Store) (config : Config) {actorId : String}
    {member : Member} (hactor : store.registry.resolve actorId = .ok (.member member))
    (query : Query) (patch : Document) (now : Int64) :
    let actor : Actor := .member member
    let stamp : Stamp := ⟨now, actorId⟩
    (∀ outcome store', exec (Store.read config actorId query) store = (.ok outcome, store') →
      ∃ table, store.backend.table? config.name = .ok table ∧
        List.Forall₂
          (fun entry document =>
            document = (actor.redactEntry .read (query.projectEntry entry)).record ∧
            Withholds document (entry.permissions.deniedPaths member .read))
          (table.found query) outcome.payload) ∧
    (∀ outcome store',
      exec (Store.update config actorId query patch now) store = (.ok outcome, store') →
      ∃ table, store.backend.table? config.name = .ok table ∧
        List.Forall₂
          (fun entry document =>
            document = (patchChange actor stamp patch entry).view ∧
            Withholds document (entry.permissions.deniedPaths member .read) ∧
            Withholds document ((entry.permissions.deniedPaths member .update).filter
              fun path => holdsWithin (flatten entry.record) path))
          (changed actor patch (table.found query)) outcome.payload) ∧
    (∀ outcome store', exec (Store.remove config actorId query now) store = (.ok outcome, store') →
      ∃ table, store.backend.table? config.name = .ok table ∧
        List.Forall₂
          (fun entry document =>
            document = (Change.removal actor stamp entry).view ∧
            Withholds document (entry.permissions.deniedPaths member .read))
          (removable actor (table.found query)) outcome.payload) := by
  intro actor stamp
  have hresolved : ∀ {other}, store.registry.resolve actorId = .ok other → other = actor :=
    fun h => Except.ok.inj (h.symm.trans hactor)
  refine ⟨fun outcome store' h => ?_, fun outcome store' h => ?_, fun outcome store' h => ?_⟩
  · obtain ⟨_, table, hother, htable, -, hpayload⟩ := read_payload h
    obtain rfl := hresolved hother
    refine ⟨table, htable, ?_⟩
    rw [hpayload, List.forall₂_map_right_iff, List.forall₂_same]
    intro entry _
    exact ⟨rfl, actor.withholds_redactEntry .read (query.projectEntry entry)⟩
  · obtain ⟨_, table, table', hother, htable, -, -, hpayload⟩ := update_payload h
    obtain rfl := hresolved hother
    refine ⟨table, htable, ?_⟩
    rw [hpayload, List.forall₂_map_right_iff, List.forall₂_same]
    intro entry _
    exact ⟨rfl, withholds_patchChange actor stamp patch entry⟩
  · obtain ⟨_, table, table', hother, htable, -, -, hpayload⟩ := remove_payload h
    obtain rfl := hresolved hother
    refine ⟨table, htable, ?_⟩
    rw [hpayload, List.forall₂_map_right_iff, List.forall₂_same]
    intro entry _
    exact ⟨rfl, withholds_removal actor stamp entry⟩

/-- A guarded field whose name has a dot. -/
theorem payload_withholds_denied_bob :
    let member : Member := ⟨"bob", []⟩
    let entry : Entry :=
      ⟨[("_id", .string "1"), ("data.age", .int32 3), ("name", .string "Ann")],
        (Twin.empty "1").set "data" { read := ["age"] }⟩
    let store : Store := ⟨(Registry.empty "root").insert member, .empty,
      Backend.empty.withTable "people" ⟨[entry]⟩⟩
    store.registry.resolve "bob" = .ok (.member member) ∧
      ∃ outcome, exec (Store.read { name := "people" } "bob" {}) store = (.ok outcome, store) ∧
        outcome.payload = [[("_id", .string "1"), ("name", .string "Ann")]] ∧
        ∀ document ∈ outcome.payload, Withholds document ["data"] := by
  intro member entry store
  have hactor : store.registry.resolve "bob" = .ok (.member member) := rfl
  have hread : exec (Store.read { name := "people" } "bob" {}) store =
      (.ok (.ofReduction (reduce (.member member) (Table.select ⟨[entry]⟩ {}) .read)), store) := rfl
  obtain ⟨hconfidential, -, -⟩ :=
    payload_withholds_denied store { name := "people" } hactor {} [] 0
  obtain ⟨table, htable, hall⟩ := hconfidential _ _ hread
  obtain rfl := Except.ok.inj htable
  obtain ⟨document, rest, hdocument, hrest, hpayload⟩ := List.forall₂_cons_left_iff.1 hall
  rw [List.forall₂_nil_left_iff.1 hrest] at hpayload
  refine ⟨hactor, _, hread, rfl, ?_⟩
  rw [hpayload]
  intro other hother
  rw [List.mem_singleton.1 hother]
  exact hdocument.2

end FieldGuard
