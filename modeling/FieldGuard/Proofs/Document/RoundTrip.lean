import FieldGuard.Proofs.Document.Distinct
import FieldGuard.Proofs.Document.Walking

/-!
# Flattening and building again

Flattening and building documents undo each other. One way, a document without dots in names
comes back as it was, in the order of its fields. The other way, leaves that do not lie below one
another come back as they were, though not in their order: a leaf that is written into a document
already there stands with that document's other leaves.

* `isFlat_flatten`: what flattening gives are leaves that do not lie below one another;
* `dotFree_nest`: what is built from leaves has no dots in names, whatever the paths are;
* `IsFlat.perm_flatten_nest`: leaves that do not lie below one another come back;
* `nest_filter_flatten_nest`: building from some of the leaves keeps these when done once more;
* `flatten_nest_roundTrip`: both ways together.
-/

namespace FieldGuard

namespace Document

variable {d flat : Document}

/-! ## Names of what is built -/

theorem DotFree.child (h : DotFree d) (key : String) : DotFree (child d key) := by
  unfold Document.child
  split
  · rename_i fields hget
    exact dotFree_of_get? h hget
  · exact dotFree_iff.2 (by simp)

theorem DotFree.assignAt (h : DotFree d) {names : List String}
    (hnames : ∀ key ∈ names, '.' ∉ key.toList) {value : Value} (hvalue : value.DotFree) :
    DotFree (assignAt d names value) := by
  induction names generalizing d with
  | nil => exact h
  | cons key rest ih =>
    obtain ⟨hkey, hrest⟩ := List.forall_mem_cons.1 hnames
    by_cases hr : rest = []
    · subst hr
      exact h.insert hkey hvalue
    · rw [assignAt_cons hr]
      have hinner := ih (h.child key) hrest
      exact h.insert hkey hinner

/-- What is built from leaves has no dots in names: a path is cut at its dots. -/
theorem dotFree_nest (h : ∀ leaf ∈ flat, leaf.2.isLeaf = true) : DotFree (nest flat) := by
  suffices hfold : ∀ d : Document, DotFree d →
      DotFree (flat.foldl (fun d leaf => assign d leaf.1 leaf.2) d) from
    hfold [] (dotFree_iff.2 (by simp))
  induction flat with
  | nil => exact fun d hd => hd
  | cons leaf flat ih =>
    intro d hd
    obtain ⟨hleaf, hflat⟩ := List.forall_mem_cons.1 h
    exact ih hflat _ (hd.assignAt (fun key hkey => Path.dot_not_mem_of_mem_segments hkey)
      (Value.dotFree_of_isLeaf hleaf))

/-! ## Both ways -/

/-- What flattening gives are leaves that do not lie below one another. -/
theorem isFlat_flatten (hfree : DotFree d) (hd : DistinctKeys d) : IsFlat (flatten d) where
  leaves := fun _ hleaf => isLeaf_of_mem_flatten hleaf
  outermost := fun leaf hleaf other hother hwithin => by
    have hbranch := (mem_flatten_iff hfree hd).1 hleaf
    have hbranch' := (mem_flatten_iff hfree hd).1 hother
    have hsame := branch_unique hd hbranch' hbranch (Path.isWithin_iff.1 hwithin)
    exact (Path.segments_injective (Prod.mk.inj hsame).1).symm

/-- The leaves of what is built from leaves that do not lie below one another are these. -/
theorem IsFlat.mem_flatten_nest_iff (h : IsFlat flat) (hd : DistinctKeys flat)
    {leaf : String × Value} : leaf ∈ flatten (nest flat) ↔ leaf ∈ flat := by
  have hbuilt : DistinctKeys (nest flat) := distinctKeys_nest (distinctKeys_iff.1 hd).2
  refine ⟨mem_flatten_nest h.leaves, fun hleaf => ?_⟩
  rw [mem_flatten_iff (dotFree_nest h.leaves) hbuilt]
  exact (h.mem_branches_nest_iff hd.keys).2 ⟨leaf, hleaf, rfl⟩

theorem IsFlat.perm_flatten_nest (h : IsFlat flat) (hd : DistinctKeys flat) :
    (flatten (nest flat)).Perm flat := by
  have hbuilt : (flatten (nest flat)).Nodup := (hasDistinctKeys_flatten _).of_map
  have hgiven : flat.Nodup := List.Nodup.of_map _ hd.keys
  exact (List.perm_ext_iff_of_nodup hbuilt hgiven).2 fun leaf => h.mem_flatten_nest_iff hd

/-- Keeping some of the leaves of a document is done once, whatever its names are: what is built
from the leaves kept has no dots in names any more. -/
theorem nest_filter_flatten_nest (hd : DistinctKeys d) (keep : String × Value → Bool) :
    nest ((flatten (nest ((flatten d).filter keep))).filter keep) =
      nest ((flatten d).filter keep) := by
  have hleaves : ∀ leaf ∈ (flatten d).filter keep, leaf.2.isLeaf = true := fun leaf hleaf =>
    isLeaf_of_mem_flatten (List.mem_of_mem_filter hleaf)
  have hkeys : DistinctKeys (nest ((flatten d).filter keep)) := distinctKeys_nest fun leaf hleaf =>
    distinctKeys_of_mem_flatten hd (List.mem_of_mem_filter hleaf)
  -- Leaves may have got lost in building, but none came about: the second time all are kept.
  have hall : (flatten (nest ((flatten d).filter keep))).filter keep =
      flatten (nest ((flatten d).filter keep)) :=
    List.filter_eq_self.2 fun leaf hleaf => (List.mem_filter.1 (mem_flatten_nest hleaves hleaf)).2
  rw [hall, nest_flatten (dotFree_nest hleaves) hkeys]

/-- Flattening and building undo each other: a document without dots in names comes back as it
was, and so do leaves that do not lie below one another, up to their order. -/
theorem flatten_nest_roundTrip :
    (∀ d : Document, DotFree d → DistinctKeys d → IsFlat (flatten d) ∧ nest (flatten d) = d) ∧
      ∀ flat : Document, DistinctKeys flat → IsFlat flat →
        DotFree (nest flat) ∧ (flatten (nest flat)).Perm flat :=
  ⟨fun _ hfree hd => ⟨isFlat_flatten hfree hd, nest_flatten hfree hd⟩,
    fun _ hd hflat => ⟨dotFree_nest hflat.leaves, hflat.perm_flatten_nest hd⟩⟩

/-- A document with an empty name, an empty document and a list that holds a name with a dot; and
leaves of one document with another field between them. -/
theorem flatten_nest_roundTrip_apart :
    let d : Document := [("", .document []), ("name", .string "Ann"),
      ("data", .document [("", .int32 3), ("tags", .array [.document [("a.b", .null)]])])]
    let flat : Document :=
      [("data.age", .int32 3), ("name", .string "Ann"), ("data.", .document [])]
    DotFree d ∧ DistinctKeys d ∧
      flatten d = [("", .document []), ("name", .string "Ann"), ("data.", .int32 3),
        ("data.tags", .array [.document [("a.b", .null)]])] ∧
      nest (flatten d) = d ∧
      DistinctKeys flat ∧ IsFlat flat ∧
      nest flat = [("data", .document [("age", .int32 3), ("", .document [])]),
        ("name", .string "Ann")] ∧
      DotFree (nest flat) ∧ (flatten (nest flat)).Perm flat := by
  intro d flat
  have hfree : DotFree d := by
    simp [d, DotFree, Value.DotFree, Value.FieldsDotFree]
  have hd : DistinctKeys d := by
    simp [d, DistinctKeys, Value.DistinctKeys, Value.FieldsDistinctKeys, Value.ItemsDistinctKeys]
  have hflatKeys : DistinctKeys flat := by
    simp [flat, DistinctKeys, Value.DistinctKeys, Value.FieldsDistinctKeys]
  have hapart : ∀ path ∈ Dict.keys flat, ∀ other ∈ Dict.keys flat,
      Path.isWithin path other = true → path = other := by decide
  have hflat : IsFlat flat :=
    ⟨by simp [flat, Value.isLeaf], fun leaf hleaf other hother =>
      hapart _ (Dict.mem_keys_of_mem hleaf) _ (Dict.mem_keys_of_mem hother)⟩
  exact ⟨hfree, hd, rfl, (flatten_nest_roundTrip.1 d hfree hd).2, hflatKeys, hflat, rfl,
    flatten_nest_roundTrip.2 flat hflatKeys hflat⟩

end Document

end FieldGuard
