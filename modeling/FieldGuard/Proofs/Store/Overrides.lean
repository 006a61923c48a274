import FieldGuard.Proofs.Store.Coverage
import FieldGuard.Proofs.Store.Integrity

/-!
# What overrides protect

An override takes hold of a new record where one of the paths of the default triple lies at or below
its own, whatever the record has there; without a shape, wherever the content has a leaf at or below
it. If it takes hold, it stays for good: no run changes the twin of a record, so no read ever shows
what lies at or below the path to a member that lacks one of its tokens (`override_kept_iff`).

* `Store.Reachable.hides_override`: what a triple of a twin requires for reading is required from
  then on.
-/

namespace FieldGuard

open Document (flatten)
open Record (content)

/-- The twin of an entry is that of the entry of the same identifier after any run. -/
theorem Columns.Extends.permissions_eq {table table' : Table} {drafts : List Draft}
    (h : table.columns.Extends drafts table'.columns) (hs : table'.IsSound) {entry entry' : Entry}
    (hentry : entry ∈ table.entries) (hentry' : entry' ∈ table'.entries)
    (hid : entry'.id = entry.id) : entry'.permissions = entry.permissions := by
  have htwin : entry.permissions ∈ table'.columns.twins :=
    h.twins.subset (List.mem_map_of_mem hentry)
  obtain ⟨other, hother, htwinOther⟩ := List.mem_map.1 htwin
  have hsame : other = entry' := by
    refine table'.entry_eq_of_id hs.ids hother hentry' ?_
    rw [hid, Entry.id, Entry.id, htwinOther]
  rw [← hsame, htwinOther]

/-- What a triple of a record's permissions requires for reading is required after any run. -/
theorem Store.Reachable.hides_override {store : Store} (hr : store.Reachable) {name : String}
    {table : Table} (htable : store.backend.table? name = .ok table) {entry : Entry}
    (hentry : entry ∈ table.entries) {path : String} {triple : Triple}
    (htriple : entry.permissions.get? path = some triple) {requests : List Request}
    (hw : ∀ request ∈ requests, request.WellFormed ∧ request.dropped? ≠ some name) {member : Member}
    (hlacks : ∃ token ∈ triple.read, token ∉ member.tokens) :
    (store.after requests).Hides name entry.id member
      fun shown => Path.isWithin shown path = true := by
  obtain ⟨table', htable', hextends⟩ := hr.extends hw (Backend.table?_eq_ok.1 htable)
  have hr' : (store.after requests).Reachable := hr.after fun request hrequest => (hw _ hrequest).1
  have hsound := hr'.isSound name table' htable'
  have hmem : entry.id ∈ table'.ids := by
    rw [← Table.ids_columns]
    exact List.mem_map_of_mem (hextends.twins.subset (List.mem_map_of_mem hentry))
  obtain ⟨entry', hentry', hid⟩ := List.mem_map.1 hmem
  have hpermissions := hextends.permissions_eq hsound hentry hentry' hid
  rw [← hid]
  refine hr'.hides (Backend.table?_eq_ok.2 htable') hentry' fun shown _ hwithin => ?_
  refine Path.isWithinAny_iff.2 ⟨path, Twin.mem_deniedPaths_iff.2 ⟨triple, ?_, hlacks⟩, hwithin⟩
  rw [hpermissions, htriple]

section

variable {store store' : Store} {config : Config} {actorId : String} {drafts : List Draft}
  {overrides : SortedDict Triple} {now : Int64} {outcome : Outcome} {draft : Draft}

/-- The permissions of a new record hold the last override given for a path if and only if a path of
the default triple lies at or below it, as one does if there is no shape and the content has a leaf
there. If they do, no read after any run shows what lies at or below the path to a member that lacks
a token that the override requires for reading. -/
theorem override_kept_iff (hr : store.Reachable)
    (hw : ∀ draft ∈ drafts, draft.payload.DistinctKeys)
    (h : exec (Store.create config actorId drafts overrides now) store = (.ok outcome, store'))
    (hdraft : draft ∈ drafts) {path : String} {triple : Triple}
    (htriple : (overrides.get? path).or (config.overrides.get? path) = some triple) :
    let leaves := Dict.keys (flatten (content draft.payload))
    ∃ table entry, store'.backend.table? config.name = .ok table ∧ entry ∈ table.entries ∧
      entry.id = draft.id ∧
      entry.record = Record.stampCreated draft.payload draft.id ⟨now, actorId⟩ ∧
      (entry.permissions.get? path = some triple ↔
        ∃ known ∈ config.defaultPaths leaves, Path.isWithin known path = true) ∧
      (config.shape = none → (∃ leaf ∈ leaves, Path.isWithin leaf path = true) →
        entry.permissions.get? path = some triple) ∧
      (entry.permissions.get? path = some triple → ∀ requests : List Request,
        (∀ request ∈ requests, request.WellFormed ∧ request.dropped? ≠ some config.name) →
        ∀ member : Member, (∃ token ∈ triple.read, token ∉ member.tokens) →
          (store'.after requests).Hides config.name draft.id member
            fun shown => Path.isWithin shown path = true) := by
  intro leaves
  obtain ⟨table, entry, htable, hentry, htoEntry⟩ := exists_entry_of_create h hdraft
  obtain ⟨hid, hrecord, -⟩ := Draft.toEntry_eq_ok htoEntry
  obtain ⟨-, hpermissions⟩ := Draft.toEntry_permissions htoEntry
  have hiff : entry.permissions.get? path = some triple ↔
      ∃ known ∈ config.defaultPaths leaves, Path.isWithin known path = true := by
    rw [hpermissions, Config.get?_twin_of_override htriple, ← List.any_eq_true]
    change (if config.reaches leaves path = true then some triple else none) = some triple ↔
      config.reaches leaves path = true
    simp
  refine ⟨table, entry, htable, hentry, hid, hrecord, hiff, ?_, ?_⟩
  · rintro hshape ⟨leaf, hleaf, hwithin⟩
    exact hiff.2 ⟨leaf, Config.mem_defaultPaths_of_no_shape hshape hleaf, hwithin⟩
  · intro hget requests hrequests member hlacks
    rw [← hid]
    exact (hr.create hw h).hides_override htable hentry hget hrequests hlacks

end

/-- The override of a call takes the place of that of the configuration. -/
theorem override_kept_profile :
    let config : Config :=
      { name := "people", shape := some (.object [("profile", .any)]),
        overrides := SortedDict.empty.insert "profile" {} }
    let overrides : SortedDict Triple := SortedDict.empty.insert "profile" { read := ["hr"] }
    let store := (Store.empty {}).after
      [.registerActor ⟨"bob", ["sales"]⟩, .registerCollection config]
    let payload : Document := [("profile", .document [("ssn", .string "123")])]
    ∃ outcome store',
      exec (Store.create config "superadmin" [⟨"1", payload⟩] overrides 1) store =
        (.ok outcome, store') ∧
      ∀ requests : List Request,
        (∀ request ∈ requests, request.WellFormed ∧ request.dropped? ≠ some "people") →
          (store'.after requests).Hides "people" "1" ⟨"bob", ["sales"]⟩
            fun shown => Path.isWithin shown "profile" = true := by
  intro config overrides store payload
  have hr : store.Reachable := by
    refine (Store.Reachable.empty {}).after ?_
    simp [Request.WellFormed]
  have hw : payload.DistinctKeys := by
    simp [payload, Document.DistinctKeys, Value.DistinctKeys, Value.FieldsDistinctKeys]
  have hok : (exec (Store.create config "superadmin" [⟨"1", payload⟩] overrides 1) store).1.isOk =
      true := by
    simp only [store, config, payload, overrides]
    rfl
  rcases hexec : exec (Store.create config "superadmin" [⟨"1", payload⟩] overrides 1) store with
    ⟨_ | outcome, store'⟩
  · rw [hexec] at hok
    cases hok
  have htriple : (overrides.get? "profile").or (config.overrides.get? "profile") =
      some { read := ["hr"] } := by
    simp only [overrides, config]
    rfl
  obtain ⟨table, entry, -, -, -, -, hiff, -, hhides⟩ :=
    override_kept_iff hr (by simpa using hw) hexec (List.mem_singleton_self _) htriple
  have hknown : "profile" ∈ config.defaultPaths (Dict.keys (flatten (content payload))) := by
    simp only [config, payload]
    decide
  exact ⟨outcome, store', rfl, fun requests hrequests =>
    hhides (hiff.2 ⟨_, hknown, Path.isWithin_refl _⟩) requests hrequests _
      ⟨"hr", List.mem_singleton_self _, by decide⟩⟩

/-- Inside a field of any shape, an override guards nothing. -/
theorem override_lost_below_any :
    let config : Config := { name := "people", shape := some (.object [("profile", .any)]) }
    let overrides : SortedDict Triple := SortedDict.empty.insert "profile.ssn" { read := ["hr"] }
    let profile : Value := .document [("ssn", .string "123")]
    let store := (Store.empty {}).after [.registerActor ⟨"bob", []⟩, .registerCollection config,
      .create config "superadmin" [⟨"1", [("profile", profile)]⟩] overrides 1]
    store.Reachable ∧
      (∃ outcome, exec (Store.read config "bob" { projection := ["profile.ssn"] }) store =
          (.ok outcome, store) ∧ outcome.payload = [[("profile", profile)]]) ∧
      ∃ table entry, store.backend.table? "people" = .ok table ∧ table.entries = [entry] ∧
        "profile.ssn" ∈ Dict.keys (flatten entry.record) ∧
        entry.permissions.get? "profile.ssn" = none := by
  intro config overrides profile store
  have hr : store.Reachable := by
    refine (Store.Reachable.empty {}).after ?_
    simp [Request.WellFormed, profile, Document.DistinctKeys, Value.DistinctKeys,
      Value.FieldsDistinctKeys]
  let entry : Entry := ⟨Record.stampCreated [("profile", profile)] "1" ⟨1, "superadmin"⟩,
    config.twin "1" ["profile.ssn"] overrides⟩
  have htable : store.backend.table? "people" = .ok ⟨[entry]⟩ := by
    simp only [store, config, entry, overrides, profile]
    rfl
  refine ⟨hr, ?_, ⟨[entry]⟩, entry, htable, rfl, ?_, ?_⟩
  · simp only [store, config, overrides, profile]
    rw [Store.exec_read]
    exact ⟨_, rfl, rfl⟩
  · exact Record.mem_keys_flatten_of_content (by simp only [profile]; decide)
  · simp only [entry, config, overrides]
    rfl

end FieldGuard
