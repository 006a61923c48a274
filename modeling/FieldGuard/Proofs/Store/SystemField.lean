import FieldGuard.Proofs.Record
import FieldGuard.Proofs.Store.Patching

/-!
# Patches and the store's own fields

A patch never names one of the store's own fields as such, but a field of a record whose name goes
on after that of such a field with a dot can stand for a place inside it.

* `exists_key_of_mem_keys_permitted`: only such a field lets a patch reach one of the store's own
  fields;
* `not_mem_keys_permitted_of_value`: and not even then if that holds no document;
* `id?_patched`: so a patched record keeps its identifier.
-/

namespace FieldGuard

open Document (branches flatten overlap)

namespace Document

/-- A field of a document built from leaves is the first segment of the path of one. -/
theorem exists_leaf_of_mem_keys_nest {flat : Document} (hleaf : ∀ leaf ∈ flat, leaf.2.isLeaf = true)
    {key : String} (h : key ∈ Dict.keys (nest flat)) :
    ∃ leaf ∈ flat, ∃ rest, Path.segments leaf.1 = key :: rest := by
  obtain ⟨names, value, hbranch⟩ := exists_branch_of_mem_keys h
  obtain ⟨leaf, hmem, e⟩ := mem_branches_nest hleaf hbranch
  exact ⟨leaf, hmem, names, (Prod.mk.inj e).1.symm⟩

/-- A leaf stands at or below one of the fields of the document. -/
theorem exists_key_of_mem_flatten {d : Document} {leaf : String × Value} (h : leaf ∈ flatten d) :
    ∃ key ∈ Dict.keys d, Path.isWithin leaf.1 key = true := by
  obtain ⟨branch, hbranch, rfl⟩ := mem_flatten h
  obtain ⟨key, value, inner, hmem, -, rfl⟩ := exists_mem_of_mem_branches hbranch
  refine ⟨key, Dict.mem_keys_of_mem hmem, ?_⟩
  rw [Path.isWithin_iff, flatBranch, Path.segments_ofSegments_flatMap (List.cons_ne_nil _ _)]
  exact List.prefix_append _ _

end Document

variable {actor : Actor} {patch : Document} {entry : Entry} {key : String}

/-- Redacting takes dots out of names or leaves the record alone, so that a field of a redacted
record whose name has a dot is one of the record. -/
theorem mem_keys_of_mem_keys_redact {d : Document} {paths : List String}
    (h : key ∈ Dict.keys (Document.redact d paths)) (hdot : '.' ∈ key.toList) :
    key ∈ Dict.keys d := by
  unfold Document.redact at h
  split at h
  · exact h
  · obtain ⟨leaf, -, rest, hsegments⟩ := Document.exists_leaf_of_mem_keys_nest
      (fun leaf hleaf => Document.isLeaf_of_mem_flatten (Document.mem_withoutPaths.1 hleaf).1) h
    have hfree := Path.dot_not_mem_of_mem_segments (hsegments ▸ List.mem_cons_self)
    exact absurd hdot hfree

/-- What a patch writes stands at or below a field that is shown of the record and is no system
field. -/
theorem exists_key_of_mem_permittedLeaves {leaf : String × Value}
    (h : leaf ∈ permittedLeaves actor patch entry) :
    ∃ name ∈ Dict.keys (actor.redactEntry .update entry).record,
      Record.isSystemField name = false ∧ Path.isWithin leaf.1 name = true := by
  obtain ⟨name, hname, hwithin⟩ := Document.exists_key_of_mem_flatten (List.mem_filter.1 h).1
  have hcontent := Document.mem_keys_patch_of_mem_keys_overlap hname
  exact ⟨name, (Value.keys_commonFields_sublist _ _).subset hname,
    (Record.mem_keys_content.1 hcontent).2, hwithin⟩

/-- Only by a field of the record whose name goes on after a system field with a dot does a patch
reach that field. -/
theorem exists_key_of_mem_keys_permitted (hsystem : Record.isSystemField key = true)
    (hfree : '.' ∉ key.toList) (h : key ∈ Dict.keys (permitted actor patch entry)) :
    ∃ name ∈ Dict.keys entry.record, name ≠ key ∧ Path.isWithin name key = true ∧
      ∃ leaf : String × Value, Path.isWithin leaf.1 name = true ∧
        Document.fits entry.record leaf.1 leaf.2 = true := by
  rw [permitted_eq_nest] at h
  obtain ⟨leaf, hleaf, rest, hsegments⟩ := Document.exists_leaf_of_mem_keys_nest
    (fun leaf hleaf => Document.isLeaf_of_mem_flatten (List.mem_of_mem_filter hleaf)) h
  obtain ⟨name, hredacted, hcontent, hwithin⟩ := exists_key_of_mem_permittedLeaves hleaf
  have hne : name ≠ key := by
    rintro rfl
    rw [hcontent] at hsystem
    cases hsystem
  -- The name and the field both start the path of the leaf, and the field has one segment.
  have hbelow : Path.isWithin name key = true := by
    rw [Path.isWithin_iff] at hwithin ⊢
    rw [Path.segments_of_dot_not_mem hfree]
    rw [hsegments] at hwithin
    obtain ⟨first, more, hfirst⟩ := List.exists_cons_of_ne_nil (Path.segments_ne_nil name)
    rw [hfirst, List.cons_prefix_cons] at hwithin
    rw [hfirst, hwithin.1]
    exact ⟨more, rfl⟩
  exact ⟨name, mem_keys_of_mem_keys_redact hredacted (Path.dot_mem_of_isWithin hbelow hne), hne,
    hbelow, leaf, hwithin,
    (Bool.and_eq_true_iff.1 (List.mem_filter.1 hleaf).2).2⟩

/-- No patch reaches a system field that holds no document. -/
theorem not_mem_keys_permitted_of_value (hsystem : Record.isSystemField key = true)
    (hfree : '.' ∉ key.toList) {value : Value} (hget : Dict.get? entry.record key = some value)
    (hdoc : value.isDocument = false) : key ∉ Dict.keys (permitted actor patch entry) := by
  intro h
  obtain ⟨name, -, hne, hbelow, leaf, hwithin, hfits⟩ :=
    exists_key_of_mem_keys_permitted hsystem hfree h
  have hkey : Path.segments key = [key] := Path.segments_of_dot_not_mem hfree
  have hlookup := Document.lookup?_of_get? hget
  have hancestor : key ∈ Path.ancestors leaf.1 := by
    refine Path.mem_ancestors_iff.2 ⟨[key], List.cons_ne_nil _ _, ?_, fun e => hne ?_, rfl⟩
    · rw [← hkey]
      exact Path.isWithin_iff.1 (Path.isWithin_trans hwithin hbelow)
    · rw [Path.eq_of_isWithin e.symm hwithin]
      exact Path.segments_injective (e.symm.trans hkey.symm)
  have hall : (Path.ancestors leaf.1).all
      (fun ancestor => (Document.lookup? entry.record ancestor).all Value.isDocument) = false :=
    List.all_eq_false.2 ⟨key, hancestor, by simp [hlookup, hdoc]⟩
  rw [Document.fits, hall, Bool.false_and] at hfits
  cases hfits

/-! ## Patched records -/

theorem get?_patched (stamp : Stamp) (hne : key ≠ Record.updatedField)
    (h : key ∉ Dict.keys (permitted actor patch entry)) :
    Dict.get? (patched actor stamp patch entry) key = Dict.get? entry.record key := by
  rw [patched, Record.get?_stampUpdated_of_ne _ hne, Document.get?_merge_of_not_mem h]

/-- A patched record keeps its identifier. -/
theorem id?_patched {id : String} (h : Record.id? entry.record = some id) (stamp : Stamp) :
    Record.id? (patched actor stamp patch entry) = some id := by
  rw [Record.id?, Option.bind_eq_some_iff] at h ⊢
  obtain ⟨value, hget, hid⟩ := h
  have hdoc : value.isDocument = false := by
    cases value with
    | document _ => cases hid
    | _ => rfl
  have hkey : Record.idField ∉ Dict.keys (permitted actor patch entry) :=
    not_mem_keys_permitted_of_value (by decide) (by decide) hget hdoc
  exact ⟨value, by rw [get?_patched stamp (by decide) hkey, hget], hid⟩

theorem distinctKeys_patched (hd : entry.record.DistinctKeys) (hp : patch.DistinctKeys)
    (stamp : Stamp) : (patched actor stamp patch entry).DistinctKeys :=
  Record.distinctKeys_stampUpdated stamp
    (Document.distinctKeys_merge hd (distinctKeys_permitted hd hp))

end FieldGuard
