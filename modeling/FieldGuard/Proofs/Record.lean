import FieldGuard.Proofs.Document.Leaves
import FieldGuard.Record

/-!
# Stamps

What stamping does to the fields of a record: a new record gets the store's own fields in front of
its content (`id?_stampCreated`, `get?_stampCreated_created`), and later stamps leave alone what
they do not write (`get?_stampUpdated_of_ne`, `get?_stampDeleted_of_ne`). No stamp names a field
twice (`distinctKeys_stampCreated`, `distinctKeys_stampUpdated`, `distinctKeys_stampDeleted`).
Records that agree but for the stamp of the last change (`SameButUpdated`) have the same content and
the same leaves outside of it.
-/

namespace FieldGuard.Record

open Document (DistinctKeys DotFree leaf? mapLeaves)

variable {record payload : Document} (stamp : Stamp)

/-! ## Content -/

theorem mem_keys_content {key : String} :
    key ∈ Dict.keys (content payload) ↔ key ∈ Dict.keys payload ∧ isSystemField key = false := by
  simp only [Dict.mem_keys, content, List.mem_filter, Bool.not_eq_true', exists_and_right]

theorem distinctKeys_content (h : DistinctKeys payload) : DistinctKeys (content payload) :=
  h.sublist List.filter_sublist

theorem branches_content_subset (record : Document) :
    Document.branches (content record) ⊆ Document.branches record := by
  intro branch hbranch
  obtain ⟨key, value, inner, hmem, hinner, rfl⟩ := Document.exists_mem_of_mem_branches hbranch
  exact Document.mem_branches_of_mem (List.mem_of_mem_filter hmem) hinner

theorem content_content (payload : Document) : content (content payload) = content payload := by
  simp [content]

/-- Writing one of the store's own fields leaves the content alone. -/
theorem content_insert {key : String} (h : isSystemField key = true) (value : Value) :
    content (Dict.insert record key value) = content record := by
  induction record with
  | nil => simp [content, h]
  | cons field rest ih =>
    obtain ⟨k, old⟩ := field
    by_cases hk : k = key
    · subst hk
      simp [content, Dict.insert, h]
    · rw [Dict.insert_cons_of_ne hk, content, content, List.filter_cons, List.filter_cons]
      rw [content, content] at ih
      rw [ih]

theorem content_mapLeaves (f : List String → Value → Value) (record : Document) :
    content (mapLeaves f record) = mapLeaves f (content record) := by
  rw [content, content, Document.mapLeaves_eq_map, Document.mapLeaves_eq_map, List.filter_map]
  rfl

/-! ## New records -/

theorem get?_stampCreated_created (id : String) :
    Dict.get? (stampCreated payload id stamp) createdField = some stamp.toValue := rfl

theorem id?_stampCreated (id : String) : id? (stampCreated payload id stamp) = some id := rfl

theorem content_stampCreated (id : String) :
    content (stampCreated payload id stamp) = content payload := by
  rw [content, stampCreated, List.filter_append, ← content, ← content, content_content]
  rfl

theorem keys_stampCreated (id : String) :
    Dict.keys (stampCreated payload id stamp) = systemFields ++ Dict.keys (content payload) := by
  simp [stampCreated, Dict.keys, systemFields]

theorem distinctKeys_stamp : stamp.toValue.DistinctKeys := by
  simp [Stamp.toValue, Value.DistinctKeys, Value.FieldsDistinctKeys]

theorem dotFree_stamp : stamp.toValue.DotFree := by
  simp [Stamp.toValue, Value.DotFree, Value.FieldsDotFree]

theorem distinctKeys_stampCreated (h : DistinctKeys payload) (id : String) :
    DistinctKeys (stampCreated payload id stamp) := by
  obtain ⟨hkeys, hvalues⟩ := Document.distinctKeys_iff.1 (distinctKeys_content h)
  refine Document.distinctKeys_iff.2 ⟨?_, fun field hfield => ?_⟩
  · rw [Dict.HasDistinctKeys, keys_stampCreated, List.nodup_append]
    refine ⟨by decide, hkeys, ?_⟩
    rintro key hsystem _ hcontent rfl
    have := (mem_keys_content.1 hcontent).2
    simp [isSystemField, hsystem] at this
  · rcases List.mem_append.1 hfield with hsystem | hcontent
    · simp only [List.mem_cons, List.not_mem_nil, or_false] at hsystem
      rcases hsystem with rfl | rfl | rfl | rfl
      · trivial
      · exact distinctKeys_stamp stamp
      · exact distinctKeys_stamp stamp
      · trivial
    · exact hvalues field hcontent

/-! ## Later stamps -/

theorem content_stampUpdated : content (stampUpdated record stamp) = content record :=
  content_insert (by decide) _

theorem content_stampDeleted : content (stampDeleted record stamp) = content record := by
  rw [stampDeleted, content_insert (by decide), content_insert (by decide)]

theorem get?_stampUpdated_of_ne {key : String} (h : key ≠ updatedField) :
    Dict.get? (stampUpdated record stamp) key = Dict.get? record key :=
  Dict.get?_insert_of_ne _ _ h

theorem get?_stampDeleted_of_ne {key : String} (hu : key ≠ updatedField) (hd : key ≠ deletedField) :
    Dict.get? (stampDeleted record stamp) key = Dict.get? record key := by
  rw [stampDeleted, Dict.get?_insert_of_ne _ _ hd, Dict.get?_insert_of_ne _ _ hu]

theorem distinctKeys_stampUpdated (h : DistinctKeys record) :
    DistinctKeys (stampUpdated record stamp) :=
  Document.distinctKeys_insert h _ (distinctKeys_stamp stamp)

theorem distinctKeys_stampDeleted (h : DistinctKeys record) :
    DistinctKeys (stampDeleted record stamp) :=
  Document.distinctKeys_insert (distinctKeys_stampUpdated stamp h) _ (distinctKeys_stamp stamp)

theorem mem_keys_stampUpdated : updatedField ∈ Dict.keys (stampUpdated record stamp) :=
  Dict.mem_keys_insert.2 (.inl rfl)

theorem mem_keys_stampDeleted : updatedField ∈ Dict.keys (stampDeleted record stamp) :=
  Dict.mem_keys_insert.2 (.inr (mem_keys_stampUpdated stamp))

/-- The stamp of a change takes the place of the one before. -/
theorem keys_stampUpdated (h : updatedField ∈ Dict.keys record) :
    Dict.keys (stampUpdated record stamp) = Dict.keys record := by
  rw [stampUpdated, Dict.keys_insert, if_pos h]

theorem dotFree_stampUpdated (h : DotFree record) : DotFree (stampUpdated record stamp) :=
  h.insert (by decide) (dotFree_stamp stamp)

/-- The stamp of a change leaves all leaves outside of it alone. -/
theorem leaf?_stampUpdated (hfree : DotFree record) (hd : DistinctKeys record)
    {path : String} (houtside : Path.isWithin path updatedField = false) :
    leaf? (stampUpdated record stamp) path = leaf? record path := by
  rw [Document.leaf?_eq_walk? (dotFree_stampUpdated stamp hfree)
    (distinctKeys_stampUpdated stamp hd), Document.leaf?_eq_walk? hfree hd, stampUpdated,
    Document.walk?_insert (by decide) _ houtside]

theorem isDeleted_congr {record' : Document}
    (h : Dict.get? record deletedField = Dict.get? record' deletedField) :
    isDeleted record = isDeleted record' := by
  rw [isDeleted, isDeleted, h]

/-! ## Records that differ in the stamp of the last change -/

/-- The records agree in all fields but the stamp of the last change, and in the order of all: with
one stamp on both, they are one record. -/
def SameButUpdated (record other : Document) : Prop :=
  ∀ stamp, stampUpdated record stamp = stampUpdated other stamp

namespace SameButUpdated

variable {other third : Document}

theorem refl (record : Document) : SameButUpdated record record := fun _ => rfl

theorem symm (h : SameButUpdated record other) : SameButUpdated other record :=
  fun stamp => (h stamp).symm

theorem trans (h : SameButUpdated record other) (h' : SameButUpdated other third) :
    SameButUpdated record third :=
  fun stamp => (h stamp).trans (h' stamp)

theorem of_stamp (record : Document) (stamp : Stamp) :
    SameButUpdated (stampUpdated record stamp) record :=
  fun later => Dict.insert_insert record updatedField stamp.toValue later.toValue

theorem content_eq (h : SameButUpdated record other) : content record = content other := by
  rw [← content_stampUpdated ⟨0, ""⟩, h, content_stampUpdated]

theorem get?_eq (h : SameButUpdated record other) {key : String} (hkey : key ≠ updatedField) :
    Dict.get? record key = Dict.get? other key := by
  rw [← get?_stampUpdated_of_ne ⟨0, ""⟩ hkey, h, get?_stampUpdated_of_ne _ hkey]

theorem leaf?_eq (h : SameButUpdated record other) (hfree : DotFree record)
    (hd : DistinctKeys record) (hfree' : DotFree other) (hd' : DistinctKeys other) {path : String}
    (houtside : Path.isWithin path updatedField = false) :
    leaf? record path = leaf? other path := by
  rw [← leaf?_stampUpdated ⟨0, ""⟩ hfree hd houtside, h,
    leaf?_stampUpdated _ hfree' hd' houtside]

/-- Replacing leaves outside of the stamp keeps the records the same outside of it. -/
theorem mapLeaves (h : SameButUpdated record other) {f : List String → Value → Value}
    (hf : ∀ names leaf, f (updatedField :: names) leaf = leaf) :
    SameButUpdated (mapLeaves f record) (mapLeaves f other) := by
  have hstamped : ∀ (record : Document) (stamp : Stamp),
      stampUpdated (Document.mapLeaves f record) stamp =
        Document.mapLeaves f (stampUpdated record stamp) := by
    intro record stamp
    rw [stampUpdated, stampUpdated, Document.mapLeaves_insert,
      Document.mapLeaves_eq_self_value fun branch _ => hf branch.1 branch.2]
  intro stamp
  rw [hstamped, hstamped, h]

end SameButUpdated

end FieldGuard.Record
