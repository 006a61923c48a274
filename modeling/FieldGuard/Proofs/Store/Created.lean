import FieldGuard.Proofs.Store.Sound

/-!
# Stamps of creation

A record whose fields leave `_created` alone, that is, of which no other field has a name that goes
on after it with a dot, keeps the stamp of its creation.

* `Record.AvoidsCreated`, `Entry.IsStamped`: such a record, with its stamp;
* `Backend.Keeps.step`: nothing that a request does takes the stamp away or changes it;
* `Record.ShowsOnly.flatten_subset`: whatever of it is shown, through projections and redactions,
  shows leaves of the stamp only;
* `Store.KeepsStamp`: both, of a store; `Store.Reachable.keepsStamp` says that such a record brings
  them about.
-/

namespace FieldGuard

open Document (branches flatten nest DistinctKeys)

/-! ## The leaves of a stamp -/

/-- The fields of a stamp. -/
def Stamp.fields (stamp : Stamp) : Document :=
  [("at", .dateTime stamp.time), ("by", .string stamp.actor)]

namespace Stamp

variable (stamp : Stamp)

theorem dotFree_fields : stamp.fields.DotFree := Record.dotFree_stamp stamp

theorem flatten_fields : flatten stamp.fields = (branches stamp.fields).map Document.flatBranch :=
  Document.flatten_eq_map_branches stamp.dotFree_fields (Record.distinctKeys_stamp stamp)

end Stamp

/-! ## What stands at or below the field -/

namespace Record

/-- No field but `_created` itself has that name, or one that goes on after it with a dot. -/
def AvoidsCreated (d : Document) : Prop :=
  ∀ key ∈ Dict.keys d, Path.isWithin key createdField = true → key = createdField

/-- All that the document has at or below the path `_created` are leaves of the stamp. -/
def ShowsOnly (stamp : Stamp) (d : Document) : Prop :=
  ∀ branch ∈ branches d, Path.isWithin (Path.ofSegments branch.1) createdField = true →
    ∃ inner ∈ branches stamp.fields, branch = (createdField :: inner.1, inner.2)

variable {stamp : Stamp} {d : Document}

theorem segments_createdField : Path.segments createdField = [createdField] :=
  Path.segments_of_dot_not_mem (by decide)

theorem eq_createdField {key : String} (h : Path.segments key = [createdField]) :
    key = createdField :=
  Path.segments_injective (h.trans segments_createdField.symm)

/-- Names lead into `_created` if the first of them does. -/
theorem isWithin_createdField_cons {key : String} {names : List String} :
    Path.isWithin (Path.ofSegments (key :: names)) createdField = true ↔
      Path.isWithin key createdField = true := by
  obtain ⟨first, more, hfirst⟩ := List.exists_cons_of_ne_nil (Path.segments_ne_nil key)
  rw [Path.isWithin_iff, Path.isWithin_iff, segments_createdField,
    Path.segments_ofSegments_flatMap (List.cons_ne_nil _ _), List.flatMap_cons, hfirst,
    List.cons_append, List.cons_prefix_cons, List.cons_prefix_cons]
  simp

theorem showsOnly_of_avoids (hd : DistinctKeys d)
    (hget : Dict.get? d createdField = some stamp.toValue) (h : AvoidsCreated d) :
    ShowsOnly stamp d := by
  intro branch hbranch hwithin
  obtain ⟨key, value, inner, hmem, hinner, rfl⟩ := Document.exists_mem_of_mem_branches hbranch
  obtain rfl := h key (Dict.mem_keys_of_mem hmem) (isWithin_createdField_cons.1 hwithin)
  rw [(Dict.get?_eq_some_iff_mem hd.keys).2 hmem, Option.some.injEq] at hget
  subst hget
  exact ⟨inner, hinner, rfl⟩

/-- A document built from leaves of another one shows no more than that. -/
theorem ShowsOnly.nest (h : ShowsOnly stamp d) {flat : Document} (hflat : flat ⊆ flatten d) :
    ShowsOnly stamp (nest flat) := by
  intro branch hbranch hwithin
  obtain ⟨leaf, hleaf, rfl⟩ := Document.mem_branches_nest
    (fun leaf hleaf => Document.isLeaf_of_mem_flatten (hflat hleaf)) hbranch
  obtain ⟨source, hsource, rfl⟩ := Document.mem_flatten (hflat hleaf)
  simp only [Path.ofSegments_segments] at hwithin
  obtain ⟨inner, hinner, rfl⟩ := h source hsource hwithin
  refine ⟨inner, hinner, ?_⟩
  have hfree : ∀ key ∈ createdField :: inner.1, '.' ∉ key.toList :=
    List.forall_mem_cons.2 ⟨by decide,
      Document.dot_not_mem_of_mem_branches stamp.dotFree_fields hinner⟩
  rw [Document.flatBranch, Path.segments_ofSegments (List.cons_ne_nil _ _) hfree]

theorem ShowsOnly.redact (h : ShowsOnly stamp d) (paths : List String) :
    ShowsOnly stamp (Document.redact d paths) := by
  unfold Document.redact
  split
  · exact h
  · exact h.nest (List.filter_subset_self _)

theorem ShowsOnly.project (h : ShowsOnly stamp d) (paths : List String) :
    ShowsOnly stamp (Document.project d paths) := by
  unfold Document.project
  split
  · exact h
  · exact h.nest (Document.projectFlat_subset _ _)

/-- A document in `_created` has leaves of the stamp only. -/
theorem ShowsOnly.flatten_subset (h : ShowsOnly stamp d) {fields : Document}
    (hget : Dict.get? d createdField = some (.document fields)) :
    flatten fields ⊆ flatten stamp.fields := by
  intro leaf hleaf
  obtain ⟨branch, hbranch, rfl⟩ := Document.mem_flatten hleaf
  have hne : fields ≠ [] := fun e => by simp [e] at hbranch
  have hmem := Document.mem_branches_of_mem (Dict.mem_of_get? hget)
    ((Document.branches_document hne).symm ▸ hbranch)
  obtain ⟨inner, hinner, e⟩ := h _ hmem (isWithin_createdField_cons.2 (Path.isWithin_refl _))
  obtain ⟨hnames, hvalue⟩ := Prod.mk.inj e
  have hsame : branch = inner := Prod.ext (List.cons.inj hnames).2 hvalue
  rw [stamp.flatten_fields, hsame]
  exact List.mem_map_of_mem hinner

end Record

/-! ## Records that keep their stamp -/

/-- An entry with a stamp of its creation that no other field interferes with. -/
structure Entry.IsStamped (entry : Entry) (stamp : Stamp) : Prop where
  created : Dict.get? entry.record Record.createdField = some stamp.toValue
  avoids : Record.AvoidsCreated entry.record

theorem dot_not_mem_of_mem_keys_permitted {actor : Actor} {patch : Document} {entry : Entry}
    {key : String} (h : key ∈ Dict.keys (permitted actor patch entry)) : '.' ∉ key.toList := by
  rw [permitted_eq_nest] at h
  obtain ⟨leaf, -, rest, hsegments⟩ := Document.exists_leaf_of_mem_keys_nest
    (fun leaf hleaf => Document.isLeaf_of_mem_flatten (List.mem_of_mem_filter hleaf)) h
  exact Path.dot_not_mem_of_mem_segments (hsegments ▸ List.mem_cons_self)

theorem Rewrite.isStamped {f : Entry → Document} (hf : Rewrite f) {entry : Entry} {stamp : Stamp}
    (h : entry.IsStamped stamp) : Entry.IsStamped { entry with record := f entry } stamp := by
  have hupdated : Path.isWithin Record.updatedField Record.createdField = false := by decide
  cases hf with
  | @patch actor later patch hp =>
    constructor
    · have hkey : Record.createdField ∉ Dict.keys (permitted actor patch entry) := fun hkey => by
        obtain ⟨name, hname, hne, hwithin, -⟩ :=
          exists_key_of_mem_keys_permitted (by decide) (by decide) hkey
        exact hne (h.avoids name hname hwithin)
      exact (get?_patched later (by decide) hkey).trans h.created
    · intro key hkey hwithin
      rcases Dict.mem_keys_insert.1 hkey with rfl | hkey
      · rw [hupdated] at hwithin
        cases hwithin
      · rcases Document.mem_keys_merge.1 hkey with hkey | hkey
        · exact h.avoids key hkey hwithin
        · -- Names that a patch adds have no dots.
          have hfree := dot_not_mem_of_mem_keys_permitted hkey
          rw [Path.isWithin_iff, Record.segments_createdField,
            Path.segments_of_dot_not_mem hfree] at hwithin
          simpa [eq_comm] using hwithin
  | delete later =>
    constructor
    · exact (Record.get?_stampDeleted_of_ne later (by decide) (by decide)).trans h.created
    · intro key hkey hwithin
      have hdeleted : Path.isWithin Record.deletedField Record.createdField = false := by decide
      rcases Dict.mem_keys_insert.1 hkey with rfl | hkey
      · rw [hdeleted] at hwithin
        cases hwithin
      · rcases Dict.mem_keys_insert.1 hkey with rfl | hkey
        · rw [hupdated] at hwithin
          cases hwithin
        · exact h.avoids key hkey hwithin

/-! ## Runs -/

/-- The storage holds a record of that identifier with its stamp, and no other field of it
interferes. -/
def Backend.Keeps (backend : Backend) (name id : String) (stamp : Stamp) : Prop :=
  ∃ table entry, backend.tables.get? name = some table ∧ entry ∈ table.entries ∧ entry.id = id ∧
    entry.IsStamped stamp

section

variable {name id : String} {stamp : Stamp}

theorem Table.Step.keeps {table table' : Table} {drafts : List Draft} (hs : table.IsSound)
    (hstep : Table.Step name table drafts table') {entry : Entry} (hentry : entry ∈ table.entries)
    (h : entry.IsStamped stamp) :
    ∃ entry' ∈ table'.entries, entry'.id = entry.id ∧ entry'.IsStamped stamp := by
  cases hstep with
  | append hw hentries hinsert =>
    obtain ⟨-, rfl⟩ := Table.insertIn_eq_ok.1 hinsert
    exact ⟨entry, List.mem_append_left _ hentry, rfl, h⟩
  | rewrite hf hentries hreplace =>
    rw [hs.isKeyed.replaceIn hf hentries hreplace]
    refine ⟨_, List.mem_map.2 ⟨entry, hentry, rfl⟩, rfl, ?_⟩
    exact hs.isKeyed.of_rewritten (P := fun record => Entry.IsStamped { entry with record } stamp)
      hentries hentry h (hf.isStamped h)

/-- What a request does takes no stamp away, unless it drops the collection. -/
theorem Backend.Keeps.step {dropped : Option String} {drafted : String → List Draft}
    {backend backend' : Backend} (h : backend.Keeps name id stamp) (hs : backend.IsSound)
    (hstep : Backend.Step dropped drafted backend backend') (hdropped : dropped ≠ some name) :
    backend'.Keeps name id stamp := by
  obtain ⟨table, entry, htable, hentry, hid, hstamp⟩ := h
  obtain ⟨table', htable', ⟨-, rfl⟩ | htableStep⟩ := hstep.table htable hdropped
  · exact ⟨table', entry, htable', hentry, hid, hstamp⟩
  · obtain ⟨entry', hentry', hid', hstamp'⟩ := htableStep.keeps (hs _ _ htable) hentry hstamp
    exact ⟨table', entry', htable', hentry', hid'.trans hid, hstamp'⟩

theorem Store.Reachable.keeps {store : Store} (hr : store.Reachable)
    (h : store.backend.Keeps name id stamp) {requests : List Request}
    (hw : ∀ request ∈ requests, request.WellFormed ∧ request.dropped? ≠ some name) :
    (store.after requests).backend.Keeps name id stamp := by
  induction requests generalizing store with
  | nil => exact h
  | cons request rest ih =>
    obtain ⟨⟨hfirst, hdropped⟩, hrest⟩ := List.forall_mem_cons.1 hw
    exact ih (.next hr hfirst) (h.step hr.isSound (Request.step hfirst store) hdropped) hrest

end

/-! ## What is kept and shown -/

/-- The store keeps the stamp of a record's creation: it stores the stamp, and wherever a read shows
a document in the place of the stamp, its leaves are leaves of the stamp. -/
structure Store.KeepsStamp (store : Store) (name id : String) (stamp : Stamp) : Prop where
  stored : ∃ table entry, store.backend.table? name = .ok table ∧ entry ∈ table.entries ∧
    entry.id = id ∧ Dict.get? entry.record Record.createdField = some stamp.toValue
  shown : ∀ (config : Config) actorId query outcome store', config.name = name →
    exec (Store.read config actorId query) store = (.ok outcome, store') →
    ∃ table, store.backend.table? name = .ok table ∧
      List.Forall₂
        (fun entry document => entry.id = id →
          ∀ fields, Dict.get? document Record.createdField = some (.document fields) →
            flatten fields ⊆ flatten stamp.fields)
        (table.found query) outcome.payload

theorem Store.Reachable.keepsStamp {store : Store} (hr : store.Reachable) {name id : String}
    {stamp : Stamp} (h : store.backend.Keeps name id stamp) : store.KeepsStamp name id stamp := by
  obtain ⟨table, entry, htable, hentry, hid, hstamp⟩ := h
  have hsound := hr.isSound name table htable
  have hok := Backend.table?_eq_ok.2 htable
  refine ⟨⟨table, entry, hok, hentry, hid, hstamp.created⟩, ?_⟩
  rintro config actorId query outcome store' rfl hread
  obtain ⟨actor, found, -, hfound, -, hpayload⟩ := read_payload hread
  obtain rfl := Except.ok.inj (hok.symm.trans hfound)
  refine ⟨table, hok, ?_⟩
  rw [hpayload, List.forall₂_map_right_iff, List.forall₂_same]
  intro other hother hotherId fields hfields
  obtain rfl := table.entry_eq_of_id hsound.ids hentry (Table.mem_found hother).1
    (hid.trans hotherId.symm)
  have hshows : Record.ShowsOnly stamp entry.record :=
    Record.showsOnly_of_avoids (hsound.stored entry hentry).distinctKeys hstamp.created
      hstamp.avoids
  exact ((hshows.project query.projection).redact _).flatten_subset hfields

end FieldGuard
