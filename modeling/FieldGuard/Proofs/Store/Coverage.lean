import FieldGuard.Proofs.Permission.Defaults
import FieldGuard.Proofs.Shape.Coverage
import FieldGuard.Proofs.Store.Sound

/-!
# What default permissions cover

The default triple is given to paths of a shape, and it guards leaves of the record. The two agree
but for the gaps of the record, leaves that no path of the shape covers. So the permissions of a new
record cover all of it if and only if they cover its gaps (`created_covered_iff`).

* `Config.gaps`: the leaves of a new record that its shape lists no path for. Without a shape there
  are none, nor if containers have paths of their own (`Config.gaps_of_containers`);
* `Entry.IsCovered`: every leaf of the record lies at or below a path of its permissions;
* `Store.Hides`: what reads keep from a member.
-/

namespace FieldGuard

open Document (flatten)
open FieldGuard.Path (isWithin isWithinAny isWithinAny_iff)
open Record (content)

/-! ## Gaps -/

namespace Config

/-- The leaves of a new record's content that the shape of its collection lists no path for. -/
def gaps (config : Config) (content : Document) : List String :=
  match config.shape with
  | some shape => shape.gaps config.containerPermissions content
  | none => []

variable {config : Config}

theorem gaps_of_containers {fields : List (String × Shape)}
    (h : config.shape = some (.object fields)) (hcontainers : config.containerPermissions = true)
    (content : Document) :
    config.gaps content = [] := by
  rw [gaps, h, hcontainers]
  exact Shape.gaps_of_containers fields content

theorem mem_keys_of_mem_gaps {content : Document} {gap : String} (h : gap ∈ config.gaps content) :
    gap ∈ Dict.keys (flatten content) := by
  unfold gaps at h
  split at h
  · exact Shape.mem_keys_of_mem_gaps h
  · cases h

/-- Without a shape, every leaf of the content gets the default triple. -/
theorem mem_defaultPaths_of_no_shape (h : config.shape = none) {recordPaths : List String}
    {path : String} (hpath : path ∈ recordPaths) : path ∈ config.defaultPaths recordPaths :=
  mem_defaultPaths_iff.2 (.record h hpath)

theorem covered_or_gap {payload : Document} (hd : payload.DistinctKeys)
    (hvalid : config.validate payload = .ok ()) {path : String}
    (h : path ∈ Dict.keys (flatten (content payload))) :
    isWithinAny path (config.defaultPaths (Dict.keys (flatten (content payload)))) = true ∨
      path ∈ config.gaps (content payload) := by
  cases hshape : config.shape with
  | none =>
    exact .inl (isWithinAny_iff.2
      ⟨path, mem_defaultPaths_of_no_shape hshape h, Path.isWithin_refl path⟩)
  | some shape =>
    rw [validate, hshape] at hvalid
    rw [gaps, hshape]
    have hcontent := Record.distinctKeys_content hd
    refine (Shape.covered_or_gap hcontent hvalid h).imp_left fun hlisted => ?_
    obtain ⟨listed, hmem, hwithin⟩ := isWithinAny_iff.1 hlisted
    refine isWithinAny_iff.2 ⟨listed, List.mem_append_right _ ?_, hwithin⟩
    rw [contentPaths, hshape]
    exact hmem

end Config

/-! ## Coverage -/

/-- A leaf of a new record stands in one of the store's own fields, or is one of the content. -/
theorem Record.mem_keys_flatten_stampCreated {payload : Document} {id : String} {stamp : Stamp}
    {path : String} (h : path ∈ Dict.keys (flatten (stampCreated payload id stamp))) :
    isWithinAny path systemFields = true ∨ path ∈ Dict.keys (flatten (content payload)) := by
  obtain ⟨leaf, hleaf, rfl⟩ := Document.mem_keys_flatten_iff.1 h
  obtain ⟨field, hfield, hleaf⟩ := Value.mem_fieldLeaves.1 hleaf
  rcases List.mem_append.1 hfield with hsystem | hcontent
  · refine .inl (isWithinAny_iff.2 ⟨field.1, ?_, Value.isWithin_of_mem_leaves hleaf⟩)
    simp only [List.mem_cons, List.not_mem_nil, or_false] at hsystem
    rcases hsystem with rfl | rfl | rfl | rfl <;> simp [systemFields]
  · exact .inr (Document.mem_keys_flatten_iff.2
      ⟨leaf, Value.mem_fieldLeaves.2 ⟨field, hcontent, hleaf⟩, rfl⟩)

theorem Record.mem_keys_flatten_of_content {payload : Document} {id : String} {stamp : Stamp}
    {path : String} (h : path ∈ Dict.keys (flatten (content payload))) :
    path ∈ Dict.keys (flatten (stampCreated payload id stamp)) := by
  obtain ⟨leaf, hleaf, rfl⟩ := Document.mem_keys_flatten_iff.1 h
  obtain ⟨field, hfield, hleaf⟩ := Value.mem_fieldLeaves.1 hleaf
  exact Document.mem_keys_flatten_iff.2
    ⟨leaf, Value.mem_fieldLeaves.2 ⟨field, List.mem_append_right _ hfield, hleaf⟩, rfl⟩

/-- Every leaf of the record lies at or below a path of its permissions. -/
def Entry.IsCovered (entry : Entry) : Prop :=
  ∀ path ∈ Dict.keys (flatten entry.record),
    isWithinAny path entry.permissions.fields.keys = true

section

variable {draft : Draft} {config : Config} {overrides : SortedDict Triple} {stamp : Stamp}
  {entry : Entry}

theorem Draft.toEntry_permissions (h : draft.toEntry config overrides stamp = .ok entry) :
    config.validate draft.payload = .ok () ∧
      entry.permissions =
        config.twin draft.id (Dict.keys (flatten (content draft.payload))) overrides := by
  obtain ⟨⟨⟩, hvalid, h⟩ := bind_eq_ok.1 h
  cases h
  exact ⟨hvalid, rfl⟩

/-- A new record is covered if and only if its gaps are. -/
theorem Draft.isCovered_iff (hd : draft.payload.DistinctKeys)
    (h : draft.toEntry config overrides stamp = .ok entry) :
    entry.IsCovered ↔ ∀ gap ∈ config.gaps (content draft.payload),
      isWithinAny gap entry.permissions.fields.keys = true := by
  obtain ⟨-, hrecord, -⟩ := Draft.toEntry_eq_ok h
  obtain ⟨hvalid, hpermissions⟩ := Draft.toEntry_permissions h
  have hdefault : ∀ path, isWithinAny path
      (config.defaultPaths (Dict.keys (flatten (content draft.payload)))) = true →
        isWithinAny path entry.permissions.fields.keys = true := by
    intro path hpath
    obtain ⟨known, hknown, hwithin⟩ := isWithinAny_iff.1 hpath
    rw [hpermissions]
    exact isWithinAny_iff.2 ⟨known, Config.mem_keys_twin_of_mem hknown, hwithin⟩
  constructor
  · intro hcovered gap hgap
    refine hcovered gap ?_
    rw [hrecord]
    exact Record.mem_keys_flatten_of_content (Config.mem_keys_of_mem_gaps hgap)
  · intro hgaps path hpath
    rw [hrecord] at hpath
    rcases Record.mem_keys_flatten_stampCreated hpath with hsystem | hcontent
    · obtain ⟨field, hfield, hwithin⟩ := isWithinAny_iff.1 hsystem
      exact hdefault path (isWithinAny_iff.2 ⟨field, List.mem_append_left _ hfield, hwithin⟩)
    · rcases Config.covered_or_gap hd hvalid hcontent with hlisted | hgap
      · exact hdefault path hlisted
      · exact hgaps path hgap

end

/-! ## What reads hide -/

/-- No read shows a member a leaf of a record whose path is hidden. -/
def Store.Hides (store : Store) (name id : String) (member : Member) (hidden : String → Prop) :
    Prop :=
  ∀ (config : Config) actorId query outcome store', config.name = name →
    store.registry.resolve actorId = .ok (.member member) →
    exec (Store.read config actorId query) store = (.ok outcome, store') →
    ∃ table, store.backend.table? name = .ok table ∧
      List.Forall₂
        (fun entry document => entry.id = id → ∀ leaf ∈ flatten document, ¬ hidden leaf.1)
        (table.found query) outcome.payload

/-- What lies within denied paths is hidden. -/
theorem Store.Reachable.hides {store : Store} (hr : store.Reachable) {name : String} {table : Table}
    (htable : store.backend.table? name = .ok table) {entry : Entry}
    (hentry : entry ∈ table.entries) {member : Member} {hidden : String → Prop}
    (h : ∀ path ∈ Dict.keys (flatten entry.record), hidden path →
      isWithinAny path (entry.permissions.deniedPaths member .read) = true) :
    store.Hides name entry.id member hidden := by
  rintro config actorId query outcome store' rfl hactor hread
  obtain ⟨actor, found, hresolved, hfound, -, hpayload⟩ := read_payload hread
  obtain rfl := Except.ok.inj (hactor.symm.trans hresolved)
  obtain rfl := Except.ok.inj (htable.symm.trans hfound)
  refine ⟨table, htable, ?_⟩
  rw [hpayload, List.forall₂_map_right_iff, List.forall₂_same]
  intro other hother hid leaf hleaf hhidden
  obtain rfl := table.entry_eq_of_id (hr.isSound _ _ (Backend.table?_eq_ok.1 htable)).ids
    (Table.mem_found hother).1 hentry hid
  obtain ⟨hprojected, hfree⟩ := Actor.mem_flatten_redact_restrictedPaths hleaf
  have hdenied := h leaf.1 (Dict.mem_keys_of_mem (Document.mem_flatten_project hprojected)) hhidden
  exact Bool.false_ne_true (hfree.symm.trans hdenied)

/-! ## New records -/

section

variable {store store' : Store} {config : Config} {actorId : String} {drafts : List Draft}
  {overrides : SortedDict Triple} {now : Int64} {outcome : Outcome} {draft : Draft}

/-- The permissions of a new record cover all its leaves if and only if they cover its gaps. If they
do, no override takes hold, and the default triple requires a token for reading, then a member
without this token is shown no leaf of the record. -/
theorem created_covered_iff (hr : store.Reachable)
    (hw : ∀ draft ∈ drafts, draft.payload.DistinctKeys)
    (h : exec (Store.create config actorId drafts overrides now) store = (.ok outcome, store'))
    (hdraft : draft ∈ drafts) :
    ∃ table entry, store'.backend.table? config.name = .ok table ∧ entry ∈ table.entries ∧
      entry.id = draft.id ∧
      entry.record = Record.stampCreated draft.payload draft.id ⟨now, actorId⟩ ∧
      (entry.IsCovered ↔ ∀ gap ∈ config.gaps (content draft.payload),
        isWithinAny gap entry.permissions.fields.keys = true) ∧
      (entry.IsCovered →
        (∀ path, (overrides.get? path).or (config.overrides.get? path) = none ∨
          config.reaches (Dict.keys (flatten (content draft.payload))) path = false) →
        ∀ member : Member, (∃ token ∈ config.defaultPermissions.read, token ∉ member.tokens) →
          store'.Hides config.name draft.id member fun _ => True) := by
  obtain ⟨table, entry, htable, hentry, htoEntry⟩ := exists_entry_of_create h hdraft
  obtain ⟨hid, hrecord, -⟩ := Draft.toEntry_eq_ok htoEntry
  obtain ⟨-, hpermissions⟩ := Draft.toEntry_permissions htoEntry
  refine ⟨table, entry, htable, hentry, hid, hrecord,
    Draft.isCovered_iff (hw draft hdraft) htoEntry, fun hcovered hnone member hlacks => ?_⟩
  rw [← hid]
  refine (hr.create hw h).hides htable hentry fun path hpath _ => ?_
  obtain ⟨known, hknown, hwithin⟩ := isWithinAny_iff.1 (hcovered path hpath)
  obtain ⟨triple, htriple⟩ := Twin.mem_keys_iff_get?.1 hknown
  have hdefault : triple = config.defaultPermissions := by
    rw [hpermissions] at htriple
    exact Config.eq_defaultPermissions_of_get?_twin hnone htriple
  refine isWithinAny_iff.2 ⟨known, Twin.mem_deniedPaths_iff.2 ⟨triple, htriple, ?_⟩, hwithin⟩
  rw [hdefault]
  exact hlacks

end

/-- A document of the shape asked for, with a document inside. -/
theorem created_covered_home :
    let shape : Shape := .object [("home", .optional (.object [("street", .string)])),
      ("name", .string)]
    let config : Config :=
      { name := "people", shape := some shape, defaultPermissions := { read := ["staff"] } }
    let store := (Store.empty {}).after
      [.registerActor ⟨"bob", []⟩, .registerCollection config]
    let payload : Document :=
      [("name", .string "Ann"), ("home", .document [("street", .string "Elm")])]
    config.gaps payload = [] ∧ ∃ outcome store',
      exec (Store.create config "superadmin" [⟨"1", payload⟩] .empty 1) store =
        (.ok outcome, store') ∧ store'.Hides "people" "1" ⟨"bob", []⟩ fun _ => True := by
  intro shape config store payload
  have hr : store.Reachable := by
    refine (Store.Reachable.empty {}).after ?_
    simp [Request.WellFormed]
  have hw : payload.DistinctKeys := by
    simp [payload, Document.DistinctKeys, Value.DistinctKeys, Value.FieldsDistinctKeys]
  have hgaps : config.gaps payload = [] := by
    simp only [config, shape, payload]
    rfl
  have hcontent : content payload = payload := by
    simp only [payload]
    rfl
  have hok : (exec (Store.create config "superadmin" [⟨"1", payload⟩] .empty 1) store).1.isOk =
      true := by
    simp only [store, config, shape, payload]
    rfl
  rcases hexec : exec (Store.create config "superadmin" [⟨"1", payload⟩] .empty 1) store with
    ⟨_ | outcome, store'⟩
  · rw [hexec] at hok
    cases hok
  obtain ⟨table, entry, -, -, -, -, hcovered, hhides⟩ := created_covered_iff hr (by simpa using hw)
    hexec (List.mem_singleton_self _)
  refine ⟨hgaps, outcome, store', rfl, hhides (hcovered.2 ?_) (fun _ => .inl rfl) _ ?_⟩
  · simp only [hcontent, hgaps]
    exact List.forall_mem_nil _
  · exact ⟨"staff", List.mem_singleton_self _, List.not_mem_nil⟩

/-- Where records of any shape are allowed, the default triple guards nothing of them. -/
theorem created_uncovered_any :
    let config : Config :=
      { name := "notes", shape := some .any, defaultPermissions := { read := ["staff"] } }
    let store := (Store.empty {}).after [.registerActor ⟨"bob", []⟩, .registerCollection config,
      .create config "superadmin" [⟨"1", [("note", .string "secret")]⟩] .empty 1]
    store.Reachable ∧
      (∃ outcome, exec (Store.read config "bob" {}) store = (.ok outcome, store) ∧
        outcome.payload = [[("note", .string "secret")]]) ∧
      ∃ table entry, store.backend.table? "notes" = .ok table ∧ entry ∈ table.entries ∧
        entry.id = "1" ∧ ¬ entry.IsCovered := by
  intro config store
  have hr : store.Reachable := by
    refine (Store.Reachable.empty {}).after ?_
    simp [Request.WellFormed, Document.DistinctKeys, Value.DistinctKeys, Value.FieldsDistinctKeys]
  let entry : Entry := ⟨Record.stampCreated [("note", .string "secret")] "1" ⟨1, "superadmin"⟩,
    config.twin "1" ["note"] .empty⟩
  have htable : store.backend.table? "notes" = .ok ⟨[entry]⟩ := by
    simp only [store, config, entry]
    rfl
  refine ⟨hr, ?_, ⟨[entry]⟩, entry, htable, List.mem_singleton_self _, rfl, fun hcovered => ?_⟩
  · simp only [store, config]
    rw [Store.exec_read]
    exact ⟨_, rfl, rfl⟩
  · have hnote : "note" ∈ Dict.keys (flatten entry.record) :=
      Record.mem_keys_flatten_of_content (by decide)
    have hwithin := hcovered "note" hnote
    have hkeys : isWithinAny "note" entry.permissions.fields.keys = false := by
      simp only [entry, config]
      rfl
    exact Bool.false_ne_true (hkeys.symm.trans hwithin)

end FieldGuard
