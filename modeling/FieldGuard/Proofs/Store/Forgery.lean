import FieldGuard.Proofs.Store.Created
import FieldGuard.Proofs.Store.Update

/-!
# Forged stamps

A field whose name goes on after `_created` with a dot is taken for a place inside the stamp of
creation, by projections as well as by patches. So every run keeps the stamp of a new record if and
only if its draft has no such field (`created_stamp_kept_iff`).

* `Document.exists_leaf_of_project`: what a projection on the path of a leaf shows;
* `Record.ProjectsOnly.exists_shadows`: if all that projections show are leaves of the stamp, the
  field has the path of one of them, and its value;
* `Store.Reachable.not_keepsStamp`: then a patch of this field alone changes the stamp.
-/

namespace FieldGuard

open Document (branches flatten nest project overlap DistinctKeys)
open Record (isSystemField)

/-! ## Forging by reading -/

namespace Document

variable {d : Document}

theorem mem_projectFlat_singleton {flat : Document} {path : String} {leaf : String × Value} :
    leaf ∈ projectFlat flat [path] ↔ leaf ∈ flat ∧ Path.isWithin leaf.1 path = true := by
  simp [projectFlat, Path.outermost, Path.addNew, Path.isWithinAny]

theorem mem_branches_project_singleton {path : String} {branch : List String × Value}
    (h : branch ∈ branches (project d [path])) : ∃ leaf ∈ flatten d,
      Path.isWithin leaf.1 path = true ∧ branch = (Path.segments leaf.1, leaf.2) := by
  obtain ⟨leaf, hleaf, rfl⟩ := mem_branches_nest
    (fun leaf hleaf => isLeaf_of_mem_flatten (mem_projectFlat_singleton.1 hleaf).1) h
  obtain ⟨hmem, hwithin⟩ := mem_projectFlat_singleton.1 hleaf
  exact ⟨leaf, hmem, hwithin, rfl⟩

theorem dot_not_mem_of_segments_eq {path key : String} {names : List String}
    (h : Path.segments path = key :: names) : ∀ name ∈ names, '.' ∉ name.toList := fun _ hname =>
  Path.dot_not_mem_of_mem_segments (h ▸ List.mem_cons_of_mem _ hname)

/-- What a projection shows inside a document comes from one leaf for each path. -/
theorem mem_flatten_of_project {path key : String} {fields : Document}
    (hget : Dict.get? (project d [path]) key = some (.document fields))
    {leaf : String × Value} (hleaf : leaf ∈ flatten d) {names : List String}
    (hnames : Path.segments leaf.1 = key :: names) (hinner : (names, leaf.2) ∈ branches fields) :
    (Path.ofSegments names, leaf.2) ∈ flatten fields := by
  have hfields : fields ≠ [] := fun e => by simp [e] at hinner
  rw [flatten_eq_ofList]
  refine Dict.mem_ofList_of_forall (List.mem_map.2 ⟨_, hinner, rfl⟩) fun other hother => ?_
  obtain ⟨branch, hbranch, e⟩ := List.mem_map.1 hother
  obtain ⟨hpath, rfl⟩ := Prod.mk.inj e
  have hbelow : (key :: branch.1, branch.2) ∈ branches (project d [path]) :=
    mem_branches_of_mem (Dict.mem_of_get? hget) (by rwa [branches_document hfields])
  obtain ⟨source, hsource, -, hsourceEq⟩ := mem_branches_project_singleton hbelow
  obtain ⟨hsourceNames, hsourceValue⟩ := Prod.mk.inj hsourceEq
  have hsame : branch.1 = names := Path.ofSegments_inj (names_ne_nil hbranch)
    (dot_not_mem_of_segments_eq hsourceNames.symm) (names_ne_nil hinner)
    (dot_not_mem_of_segments_eq hnames) hpath
  have hkey : source.1 = leaf.1 := Path.segments_injective (by rw [← hsourceNames, hsame, hnames])
  have hvalue : source.2 = leaf.2 :=
    (hasDistinctKeys_flatten d).value_eq (hkey ▸ hsource : (leaf.1, source.2) ∈ flatten d) hleaf
  exact hsourceValue.trans hvalue

/-- A projection on the path of a leaf with several segments shows some leaf within it, inside a
document. -/
theorem exists_leaf_of_project (hd : DistinctKeys d) {path : String}
    (h : path ∈ Dict.keys (flatten d)) {key : String} {rest : List String}
    (hsegments : Path.segments path = key :: rest)
    (hrest : rest ≠ []) :
    ∃ fields, Dict.get? (project d [path]) key = some (.document fields) ∧
      ∃ leaf ∈ flatten d, Path.isWithin leaf.1 path = true ∧
        ∃ names, Path.segments leaf.1 = key :: names ∧
          (Path.ofSegments names, leaf.2) ∈ flatten fields := by
  have hkeys : DistinctKeys (project d [path]) := distinctKeys_nest fun leaf hleaf =>
    distinctKeys_of_mem_flatten hd (mem_projectFlat_singleton.1 hleaf).1
  obtain ⟨value, hvalue⟩ := Dict.mem_keys.1 h
  have hshown : (path, value) ∈ projectFlat (flatten d) [path] :=
    mem_projectFlat_singleton.2 ⟨hvalue, Path.isWithin_refl path⟩
  have hne : project d [path] ≠ [] := nest_ne_nil (List.ne_nil_of_mem hshown)
  obtain ⟨branch, hbranch⟩ := List.exists_mem_of_ne_nil _ (branches_ne_nil hne)
  obtain ⟨leaf, hleaf, hwithin, rfl⟩ := mem_branches_project_singleton hbranch
  have hprefix := Path.isWithin_iff.1 hwithin
  rw [hsegments] at hprefix
  obtain ⟨more, hmore⟩ := hprefix
  have hnames : Path.segments leaf.1 = key :: (rest ++ more) := hmore.symm
  rw [hnames] at hbranch
  obtain ⟨inner, hget, hinner⟩ := (mem_branches_cons_iff hkeys.keys).1 hbranch
  rcases Value.isLeaf_or_document inner with hinnerLeaf | ⟨fields, hfields, rfl⟩
  · rw [Value.branches_of_isLeaf hinnerLeaf] at hinner
    simp [hrest] at hinner
  · rw [branches_document hfields] at hinner
    exact ⟨fields, hget, leaf, hleaf, hwithin, rest ++ more, hnames,
      mem_flatten_of_project hget hleaf hnames hinner⟩

end Document

theorem Stamp.flatten_fields_eq_self (stamp : Stamp) : flatten stamp.fields = stamp.fields := rfl

/-- The path of a leaf of a stamp is the name of one of its fields. -/
theorem Stamp.exists_part {stamp : Stamp} {names : List String} {value : Value} (hne : names ≠ [])
    (hfree : ∀ name ∈ names, '.' ∉ name.toList)
    (h : (Path.ofSegments names, value) ∈ stamp.fields) :
    ∃ part, names = [part] ∧ (part, value) ∈ stamp.fields := by
  have hpart : '.' ∉ (Path.ofSegments names).toList := by
    rcases List.mem_cons.1 h with e | h
    · rw [(Prod.mk.inj e).1]
      decide
    · rw [(Prod.mk.inj (List.mem_singleton.1 h)).1]
      decide
  refine ⟨Path.ofSegments names, ?_, h⟩
  rw [← Path.segments_of_dot_not_mem hpart, Path.segments_ofSegments hne hfree]

theorem Stamp.isPlain_of_mem {stamp : Stamp} {part : String} {value : Value}
    (h : (part, value) ∈ stamp.fields) : value.isPlain = true := by
  rcases List.mem_cons.1 h with e | h
  · rw [(Prod.mk.inj e).2]
    rfl
  · rw [(Prod.mk.inj (List.mem_singleton.1 h)).2]
    rfl

/-- No part of a stamp is null. -/
theorem Stamp.insert_null_ne_fields (stamp : Stamp) (part : String) :
    Dict.insert stamp.fields part .null ≠ stamp.fields := by
  intro h
  have hmem := Dict.mem_insert_self stamp.fields part .null
  rw [h] at hmem
  simp [fields] at hmem

namespace Record

variable {stamp : Stamp} {d payload : Document} {id : String}

/-- Whatever a projection on one path shows in `_created` are leaves of the stamp. -/
def ProjectsOnly (stamp : Stamp) (d : Document) : Prop :=
  ∀ path fields, Dict.get? (project d [path]) createdField = some (.document fields) →
    flatten fields ⊆ flatten stamp.fields

theorem ProjectsOnly.exists_part (h : ProjectsOnly stamp d) (hd : DistinctKeys d) {path : String}
    (hpath : path ∈ Dict.keys (flatten d)) {rest : List String}
    (hsegments : Path.segments path = createdField :: rest) (hrest : rest ≠ []) :
    ∃ part value, (part, value) ∈ stamp.fields ∧ rest = [part] ∧ (path, value) ∈ flatten d := by
  obtain ⟨fields, hget, leaf, hleaf, hwithin, names, hnames, hshown⟩ :=
    Document.exists_leaf_of_project hd hpath hsegments hrest
  have hprefix : rest <+: names := by
    rw [Path.isWithin_iff, hsegments, hnames, List.cons_prefix_cons] at hwithin
    exact hwithin.2
  have hne : names ≠ [] := fun e => hrest (List.prefix_nil.1 (e ▸ hprefix))
  have hstamp := h path fields hget hshown
  rw [stamp.flatten_fields_eq_self] at hstamp
  obtain ⟨part, rfl, hpart⟩ :=
    Stamp.exists_part hne (Document.dot_not_mem_of_segments_eq hnames) hstamp
  have hsame : rest = [part] := hprefix.eq_of_length_le (List.length_pos_iff.2 hrest)
  have hleafPath : leaf.1 = path := Path.segments_injective (by rw [hnames, hsegments, hsame])
  exact ⟨part, leaf.2, hpart, hsame, hleafPath ▸ hleaf⟩

/-- A leaf of the content that has the path of a leaf of the stamp is seen in place of that one. -/
theorem mem_flatten_stampCreated (hd : DistinctKeys payload) {key : String} {value : Value}
    (hmem : (key, value) ∈ content payload) (hleaf : value.isLeaf = true) {part : String}
    (hsegments : Path.segments key = [createdField, part]) :
    (key, value) ∈ flatten (stampCreated payload id stamp) := by
  obtain ⟨front, back, hcontent⟩ := List.append_of_mem hmem
  have hnodup : Dict.HasDistinctKeys (front ++ (key, value) :: back) :=
    hcontent ▸ (distinctKeys_content hd).keys
  have hkeyBack : key ∉ Dict.keys back := by
    rw [Dict.HasDistinctKeys, Dict.keys, List.map_append, List.nodup_append] at hnodup
    exact (List.nodup_cons.1 hnodup.2.1).1
  rw [Document.flatten_eq_ofList, stampCreated, hcontent, ← List.append_assoc,
    Document.branches_append, Document.branches_leaf_cons hleaf, List.map_append, List.map_cons]
  refine Dict.mem_ofList_append_cons _ value fun hback => ?_
  -- A later leaf of this path would stand in `_created` itself, or in a second field of this name.
  rw [List.map_map, List.mem_map] at hback
  obtain ⟨branch, hbranch, hkey⟩ := hback
  obtain ⟨name, inner, rest, hname, -, rfl⟩ := Document.exists_mem_of_mem_branches hbranch
  have hpath : Path.segments (Path.ofSegments (name :: rest.1)) = [createdField, part] :=
    (congrArg Path.segments hkey).trans hsegments
  have hsystem : isSystemField name = false := by
    have hkeys : name ∈ Dict.keys (content payload) := by
      rw [hcontent]
      exact Dict.mem_keys_of_mem (List.mem_append_right _ (List.mem_cons_of_mem _ hname))
    exact (mem_keys_content.1 hkeys).2
  rcases Path.segments_head_of_pair hpath with hcreated | hsame
  · obtain rfl := eq_createdField hcreated
    cases hsystem
  · obtain rfl : name = key := Path.segments_injective (hsame.trans hsegments.symm)
    exact hkeyBack (Dict.mem_keys_of_mem hname)

/-- A field of the content that has the path and the value of a part of the stamp. -/
structure Shadows (stamp : Stamp) (record : Document) (key part : String) : Prop where
  system : isSystemField key = false
  segments : Path.segments key = [createdField, part]
  value : ∃ value, (part, value) ∈ stamp.fields ∧ Dict.get? record key = some value

/-- If projections show leaves of the stamp only, a field whose name goes on after `_created` has
the path and the value of one of them. -/
theorem ProjectsOnly.exists_shadows (h : ProjectsOnly stamp (stampCreated payload id stamp))
    (hd : DistinctKeys payload) {key : String} (hkey : key ∈ Dict.keys (content payload))
    (hwithin : Path.isWithin key createdField = true) :
    ∃ part, Shadows stamp (stampCreated payload id stamp) key part := by
  have hrecord := distinctKeys_stampCreated stamp hd id
  obtain ⟨value, hmem⟩ := Dict.mem_keys.1 hkey
  have hfield : (key, value) ∈ stampCreated payload id stamp := List.mem_append_right _ hmem
  obtain ⟨more, hmore⟩ : ∃ more, Path.segments key = createdField :: more := by
    rw [Path.isWithin_iff, segments_createdField] at hwithin
    obtain ⟨more, hmore⟩ := hwithin
    exact ⟨more, hmore.symm⟩
  have hne : more ≠ [] := by
    rintro rfl
    obtain rfl := eq_createdField hmore
    exact absurd (mem_keys_content.1 hkey).2 (by decide)
  -- Some leaf stands at or below the field; it can only stand at the field itself.
  obtain ⟨⟨names, leaf⟩, hinner⟩ :=
    List.exists_mem_of_ne_nil _ (Document.branches_value_ne_nil value)
  have hbranch := Document.mem_branches_of_mem hfield hinner
  have hpath : Path.segments (Path.ofSegments (key :: names)) =
      createdField :: (more ++ names.flatMap Path.segments) := by
    rw [Path.segments_ofSegments_flatMap (List.cons_ne_nil _ _), List.flatMap_cons, hmore]
    rfl
  obtain ⟨part, shown, hpart, hlast, hshown⟩ := h.exists_part hrecord
    (Document.mem_keys_flatten.2 ⟨_, hbranch, rfl⟩) hpath (by simp [hne])
  obtain ⟨rfl, hnil⟩ : more = [part] ∧ names.flatMap Path.segments = [] := by
    simpa [List.append_eq_singleton_iff, hne] using hlast
  obtain rfl := Path.flatMap_segments_eq_nil.1 hnil
  obtain rfl := Document.eq_of_nil_mem_branches hinner
  have hflat : (key, leaf) ∈ flatten (stampCreated payload id stamp) :=
    mem_flatten_stampCreated hd hmem (Document.isLeaf_of_mem_branches hbranch) hmore
  obtain rfl := (Document.hasDistinctKeys_flatten _).value_eq hflat hshown
  exact ⟨part, (mem_keys_content.1 hkey).2, hmore, leaf, hpart,
    (Dict.get?_eq_some_iff_mem hrecord.keys).2 hfield⟩

end Record

/-! ## Forging by a patch -/

/-- The patch that puts null in the place of a field. -/
def blanking (key : String) : Document := [(key, .null)]

theorem distinctKeys_blanking (key : String) : DistinctKeys (blanking key) := by
  simp [blanking, DistinctKeys, Value.DistinctKeys, Value.FieldsDistinctKeys]

section

variable {entry : Entry} {stamp : Stamp} {key part : String}

theorem content_blanking (h : Record.isSystemField key = false) :
    Record.content (blanking key) = blanking key := by
  simp [Record.content, blanking, h]

variable (h : Record.Shadows stamp entry.record key part)
  (hcreated : Dict.get? entry.record Record.createdField = some stamp.toValue)

include h hcreated

theorem fits_blanking : Document.fits entry.record key .null = true := by
  obtain ⟨value, hvalue, hget⟩ := h.value
  obtain ⟨hdoc, -⟩ := Value.isPlain_iff.1 (Stamp.isPlain_of_mem hvalue)
  have hancestors : Path.ancestors key = [Record.createdField] := by
    rw [Path.ancestors, h.segments]
    rfl
  have hinner : (Document.lookup? entry.record Record.createdField).all Value.isDocument =
      true := by
    rw [Document.lookup?_of_get? hcreated]
    rfl
  rw [Document.fits, hancestors, Document.lookup?_of_get? hget, List.all_cons, hinner]
  cases value with
  | document _ => cases hdoc
  | _ => rfl

/-- The patch reaches the stamp. -/
theorem permitted_blanking (hd : DistinctKeys entry.record) :
    permitted .superadmin (blanking key) entry =
      [(Record.createdField, .document [(part, .null)])] := by
  obtain ⟨value, hvalue, hget⟩ := h.value
  obtain ⟨-, hdefined⟩ := Value.isPlain_iff.1 (Stamp.isPlain_of_mem hvalue)
  have hover : overlap (blanking key) entry.record = [(key, .null)] :=
    Document.overlap_singleton hd.keys hget hdefined rfl
  have hleaves : permittedLeaves .superadmin (blanking key) entry = [(key, .null)] := by
    change (flatten (overlap (Record.content (blanking key)) entry.record)).filter
      (fun leaf => Document.fits entry.record leaf.1 leaf.2) = _
    rw [content_blanking h.system, hover]
    change List.filter _ [(key, Value.null)] = _
    simp [fits_blanking h hcreated]
  rw [permitted_eq_nest, hleaves, nest, List.foldl_cons, List.foldl_nil, Document.assign,
    h.segments]
  rfl

/-- It puts null in the place of a part of the stamp. -/
theorem patched_blanking (hd : DistinctKeys entry.record) (later : Stamp) :
    patched .superadmin later (blanking key) entry =
      Record.stampUpdated (Dict.insert entry.record Record.createdField
        (.document (Dict.insert stamp.fields part .null))) later := by
  have hmerge : Document.merge entry.record [(Record.createdField, .document [(part, .null)])] =
      Dict.insert entry.record Record.createdField
        (Value.mergeOver (Dict.get? entry.record Record.createdField)
          (.document [(part, .null)])) := rfl
  rw [patched, permitted_blanking h hcreated hd, hmerge, hcreated]
  rfl

theorem content_patched_blanking (hd : DistinctKeys entry.record) (later : Stamp) :
    Record.content (patched .superadmin later (blanking key) entry) =
      Record.content entry.record := by
  rw [patched_blanking h hcreated hd, Record.stampUpdated, Record.content_insert (by decide),
    Record.content_insert (by decide)]

end

/-! ## Stores that keep the stamp -/

theorem Registry.resolve_superadminId (registry : Registry) :
    registry.resolve registry.superadminId = .ok .superadmin := if_pos rfl

section

variable {store : Store} {config : Config} {table : Table} {entry : Entry} {stamp : Stamp}
  (htable : store.backend.table? config.name = .ok table) (hentry : entry ∈ table.entries)

include htable hentry

/-- In a store that keeps the stamp, projections show leaves of it only, as the superadmin sees. -/
theorem Store.KeepsStamp.projectsOnly (h : store.KeepsStamp config.name entry.id stamp) :
    Record.ProjectsOnly stamp entry.record := by
  intro path fields hget
  have hread : ∃ outcome, exec (Store.read config store.registry.superadminId
      (Query.ofId entry.id [path])) store = (.ok outcome, store) := by
    rw [Store.exec_read, Registry.resolve_superadminId, htable]
    exact ⟨_, rfl⟩
  obtain ⟨outcome, hread⟩ := hread
  obtain ⟨found, hfound, hall⟩ := h.shown config _ _ outcome store rfl hread
  obtain rfl := Except.ok.inj (htable.symm.trans hfound)
  obtain ⟨actor, other, hactor, hother, -, hpayload⟩ := read_payload hread
  obtain rfl := Except.ok.inj ((Registry.resolve_superadminId _).symm.trans hactor)
  obtain rfl := Except.ok.inj (htable.symm.trans hother)
  rw [hpayload, List.forall₂_map_right_iff, List.forall₂_same] at hall
  exact hall entry (Table.mem_found_ofId.2 ⟨hentry, rfl⟩) rfl fields hget

/-- A patch by the superadmin changes the stamp, if a field has the path and the value of a part
of it. -/
theorem Store.Reachable.not_keepsStamp (hr : store.Reachable)
    (hcreated : Dict.get? entry.record Record.createdField = some stamp.toValue)
    (hvalid : config.validate entry.record = .ok ()) {key part : String}
    (h : Record.Shadows stamp entry.record key part) (now : Int64) :
    ¬ (Request.next store (.update config store.registry.superadminId (Query.ofId entry.id [])
      (blanking key) now)).KeepsStamp config.name entry.id stamp := by
  have hsound := hr.isSound _ _ (Backend.table?_eq_ok.1 htable)
  have hd := (hsound.stored entry hentry).distinctKeys
  have hpatch := distinctKeys_blanking key
  have honly : ∀ other ∈ table.found (Query.ofId entry.id []), other = entry := fun other hother =>
    table.entry_eq_of_id hsound.ids (Table.mem_found_ofId.1 hother).1 hentry
      (Table.mem_found_ofId.1 hother).2
  have hmem : entry ∈
      changed .superadmin (blanking key) (table.found (Query.ofId entry.id [])) := by
    refine mem_changed.2 ⟨Table.mem_found_ofId.2 ⟨hentry, rfl⟩, ?_⟩
    rw [permitted_blanking h hcreated hd]
    exact List.cons_ne_nil _ _
  have hpatched : ∀ other ∈
      changed .superadmin (blanking key) (table.found (Query.ofId entry.id [])),
      config.validate (patched .superadmin ⟨now, store.registry.superadminId⟩ (blanking key)
        other) = .ok () := by
    intro other hother
    obtain rfl := honly other (mem_changed.1 hother).1
    rw [← hvalid]
    exact config.validate_congr (content_patched_blanking h hcreated hd _)
  obtain ⟨outcome, table', hexec, hentries⟩ :=
    update_ok hsound.isKeyed hpatch (Registry.resolve_superadminId _) htable hpatched
  intro hkeeps
  rw [Request.next, hexec] at hkeeps
  obtain ⟨found, after, hfound, hafter, hid, hget⟩ := hkeeps.stored
  obtain rfl := Except.ok.inj ((Backend.table?_withTable _ _ _).symm.trans hfound)
  rw [hentries] at hafter
  obtain ⟨old, hold, rfl⟩ := List.mem_map.1 hafter
  obtain rfl := table.entry_eq_of_id hsound.ids hold hentry hid
  dsimp only at hget
  rw [rewritten_of_mem_changed hsound.isKeyed _ hmem, patched_blanking h hcreated hd,
    Record.get?_stampUpdated_of_ne _ (by decide), Dict.get?_insert_self] at hget
  exact stamp.insert_null_ne_fields part (Value.document.inj (Option.some.inj hget))

end

/-! ## New records -/

namespace Record

variable {payload : Document}

theorem eq_createdField_of_mem_systemFields : ∀ key ∈ systemFields,
    Path.isWithin key createdField = true → key = createdField := by decide

theorem avoidsCreated_stampCreated (stamp : Stamp) (id : String) :
    AvoidsCreated (stampCreated payload id stamp) ↔ AvoidsCreated payload := by
  unfold AvoidsCreated
  rw [keys_stampCreated]
  constructor
  · intro h key hkey hwithin
    cases hsystem : isSystemField key with
    | true =>
      exact eq_createdField_of_mem_systemFields key (by simpa [isSystemField] using hsystem) hwithin
    | false => exact h key (List.mem_append_right _ (mem_keys_content.2 ⟨hkey, hsystem⟩)) hwithin
  · intro h key hkey hwithin
    rcases List.mem_append.1 hkey with hsystem | hcontent
    · exact eq_createdField_of_mem_systemFields key hsystem hwithin
    · exact h key (mem_keys_content.1 hcontent).1 hwithin

end Record

section

variable {store store' : Store} {config : Config} {actorId : String} {drafts : List Draft}
  {overrides : SortedDict Triple} {now : Int64} {outcome : Outcome} {draft : Draft}

/-- Every run keeps the stamp of a new record if and only if no field of its draft has a name that
goes on after `_created` with a dot. -/
theorem created_stamp_kept_iff (hr : store.Reachable)
    (hw : ∀ draft ∈ drafts, draft.payload.DistinctKeys)
    (h : exec (Store.create config actorId drafts overrides now) store = (.ok outcome, store'))
    (hdraft : draft ∈ drafts) :
    (∀ requests : List Request,
      (∀ request ∈ requests, request.WellFormed ∧ request.dropped? ≠ some config.name) →
        (store'.after requests).KeepsStamp config.name draft.id ⟨now, actorId⟩) ↔
      Record.AvoidsCreated draft.payload := by
  have hr' : store'.Reachable := by
    have hnext : (Request.next store (.create config actorId drafts overrides now)).Reachable :=
      .next hr hw
    rwa [Request.next, h] at hnext
  obtain ⟨table, entry, htable, hentry, htoEntry⟩ := exists_entry_of_create h hdraft
  obtain ⟨hid, hrecord, hvalid⟩ := Draft.toEntry_eq_ok htoEntry
  have hcreated : Dict.get? entry.record Record.createdField =
      some (Stamp.toValue ⟨now, actorId⟩) := by
    rw [hrecord, Record.get?_stampCreated_created]
  constructor
  · intro hkeeps key hkey hwithin
    by_contra hne
    have hsystem : isSystemField key = false := by
      by_contra hsystem
      exact hne (Record.eq_createdField_of_mem_systemFields key
        (by simpa [isSystemField] using hsystem) hwithin)
    rw [← hid] at hkeeps
    have hshown : Record.ProjectsOnly ⟨now, actorId⟩ entry.record :=
      (hkeeps [] (List.forall_mem_nil _)).projectsOnly htable hentry
    rw [hrecord] at hshown
    obtain ⟨part, hshadows⟩ := hshown.exists_shadows (hw draft hdraft)
      (Record.mem_keys_content.2 ⟨hkey, hsystem⟩) hwithin
    rw [← hrecord] at hshadows
    refine hr'.not_keepsStamp htable hentry hcreated hvalid hshadows 0
      (hkeeps [.update _ _ _ _ _] ?_)
    intro request hrequest
    rw [List.mem_singleton.1 hrequest]
    exact ⟨distinctKeys_blanking key, (Option.some_ne_none _).symm⟩
  · intro havoids requests hrequests
    have hkeeps : store'.backend.Keeps config.name draft.id ⟨now, actorId⟩ := by
      refine ⟨table, entry, Backend.table?_eq_ok.1 htable, hentry, hid, hcreated, ?_⟩
      rw [hrecord, Record.avoidsCreated_stampCreated]
      exact havoids
    exact (hr'.after fun request hrequest => (hrequests request hrequest).1).keepsStamp
      (hr'.keeps hkeeps hrequests)

end

/-- A field whose name only begins like `_created` does no harm. -/
theorem created_stamp_kept_createdAt :
    let config : Config := { name := "people" }
    let store := (Store.empty {}).after [.registerCollection config]
    let payload : Document := [("_createdAt", .string "home"), ("name", .string "Ann")]
    ∃ outcome store',
      exec (Store.create config "superadmin" [⟨"1", payload⟩] .empty 1) store =
        (.ok outcome, store') ∧
      ∀ requests : List Request,
        (∀ request ∈ requests, request.WellFormed ∧ request.dropped? ≠ some "people") →
          (store'.after requests).KeepsStamp "people" "1" ⟨1, "superadmin"⟩ := by
  intro config store payload
  have hr : store.Reachable := by
    refine (Store.Reachable.empty {}).after ?_
    simp [Request.WellFormed]
  have hw : payload.DistinctKeys := by
    simp [payload, DistinctKeys, Value.DistinctKeys, Value.FieldsDistinctKeys]
  have hok : (exec (Store.create config "superadmin" [⟨"1", payload⟩] .empty 1) store).1.isOk =
      true := by
    simp only [store, config, payload]
    rfl
  rcases hexec : exec (Store.create config "superadmin" [⟨"1", payload⟩] .empty 1) store with
    ⟨_ | outcome, store'⟩
  · rw [hexec] at hok
    cases hok
  have havoids : Record.AvoidsCreated payload := by
    simp only [payload, Record.AvoidsCreated]
    decide
  exact ⟨outcome, store', rfl, (created_stamp_kept_iff hr (by simpa using hw) hexec
    (List.mem_singleton_self _)).2 havoids⟩

/-- Whoever may create a record or update one of its fields can forge its stamp. -/
theorem created_stamp_forged :
    let config : Config := { name := "people" }
    let store := (Store.empty {}).after [.registerActor ⟨"bob", []⟩, .registerCollection config,
      .create config "superadmin" [⟨"1", [("_created.by", .string "mallory")]⟩] .empty 1]
    let patch : Document := [("_created.by", .string "eve")]
    store.Reachable ∧
      (∃ outcome, exec (Store.read config "bob" { projection := ["_created"] }) store =
          (.ok outcome, store) ∧
        outcome.payload =
          [[("_created", .document [("at", .dateTime 1), ("by", .string "mallory")])]]) ∧
      (∃ table, (store.after [.update config "bob" {} patch 2]).backend.table? "people" =
          .ok table ∧
        table.entries.map (fun entry => Dict.get? entry.record "_created") =
          [some (.document [("at", .dateTime 1), ("by", .string "eve")])]) ∧
      ¬ ∀ requests : List Request,
        (∀ request ∈ requests, request.WellFormed ∧ request.dropped? ≠ some "people") →
          (store.after requests).KeepsStamp "people" "1" ⟨1, "superadmin"⟩ := by
  intro config store patch
  have hr : store.Reachable := by
    refine (Store.Reachable.empty {}).after ?_
    simp [Request.WellFormed, DistinctKeys, Value.DistinctKeys, Value.FieldsDistinctKeys]
  have hp : patch.DistinctKeys := by
    simp [patch, DistinctKeys, Value.DistinctKeys, Value.FieldsDistinctKeys]
  have hforged : ∃ table,
      (store.after [.update config "bob" {} patch 2]).backend.table? "people" = .ok table ∧
        table.entries.map (fun entry => Dict.get? entry.record "_created") =
          [some (.document [("at", .dateTime 1), ("by", .string "eve")])] := by
    let entry : Entry := ⟨[("_id", .string "1"), ("_created", Stamp.toValue ⟨1, "superadmin"⟩),
      ("_updated", Stamp.toValue ⟨1, "superadmin"⟩), ("_deleted", .boolean false),
      ("_created.by", .string "mallory")], config.twin "1" ["_created.by"] .empty⟩
    have htable : store.backend.table? config.name = .ok ⟨[entry]⟩ := by
      simp only [store, config, entry]
      rfl
    have hpermitted : permitted (.member ⟨"bob", []⟩) patch entry =
        [("_created", .document [("by", .string "eve")])] := by
      simp only [patch, entry, config]
      rfl
    have hmem : entry ∈ changed (.member ⟨"bob", []⟩) patch (Table.found ⟨[entry]⟩ {}) := by
      refine mem_changed.2 ⟨List.mem_singleton_self _, ?_⟩
      rw [hpermitted]
      exact List.cons_ne_nil _ _
    have hactor : store.registry.resolve "bob" = .ok (.member ⟨"bob", []⟩) := by
      simp only [store]
      rfl
    have hkeyed := (hr.isSound _ _ (Backend.table?_eq_ok.1 htable)).isKeyed
    obtain ⟨outcome, table', hexec, hentries⟩ : ∃ outcome table',
        exec (Store.update config "bob" {} patch 2) store =
          (.ok outcome, store.withTable config.name table') ∧ _ :=
      update_ok hkeyed hp hactor htable fun _ _ => rfl
    refine ⟨table', ?_, ?_⟩
    · rw [Store.after_cons, Store.after_nil, Request.next, hexec]
      exact Backend.table?_withTable _ _ _
    · rw [hentries, List.map_singleton, List.map_singleton, rewritten_of_mem_changed hkeyed _ hmem,
        patched, hpermitted]
      simp only [entry]
      rfl
  refine ⟨hr, ?_, hforged, fun h => ?_⟩
  · simp only [store, config]
    rw [Store.exec_read]
    exact ⟨_, rfl, rfl⟩
  · obtain ⟨table, htable, hstored⟩ := hforged
    have hkeeps := h [.update config "bob" {} patch 2] fun request hrequest => by
      rw [List.mem_singleton.1 hrequest]
      exact ⟨hp, (Option.some_ne_none _).symm⟩
    obtain ⟨found, entry, hfound, hentry, -, hget⟩ := hkeeps.stored
    obtain rfl := Except.ok.inj (htable.symm.trans hfound)
    have hmem := List.mem_map_of_mem (f := fun entry => Dict.get? entry.record "_created") hentry
    rw [hstored, List.mem_singleton] at hmem
    have hsame : some (Stamp.toValue ⟨1, "superadmin"⟩) =
        some (.document [("at", .dateTime 1), ("by", .string "eve")]) := hget.symm.trans hmem
    simp [Stamp.toValue] at hsame

end FieldGuard
