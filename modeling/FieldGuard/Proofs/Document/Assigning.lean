import FieldGuard.Proofs.Document.Merging

/-!
# Merging as writing leaves

Merging writes a patch field by field and at most goes into documents that stand in both; writing a
leaf at its path makes the documents on the way. They come to the same where the patch has no
document without fields, which merging into a document leaves as it is and writing puts in place of
one.

* `assignAll_branches_eq_merge`: writing the branches of a patch merges it;
* `foldl_assign_flatten`: so does writing its leaves at their paths, without dots in names;
* `merge_merge_self`: merging a patch once more changes nothing;
* `merge_writes_leaves`: both together.
-/

namespace FieldGuard

namespace Document

open Value (mergeOver)

variable {d patch : Document}

/-! ## Writing the branches of a patch -/

/-- No document inside is without fields. -/
def NoEmptyInside (d : Document) : Prop :=
  ∀ names, names ≠ [] → walk? d names ≠ some (.document [])

theorem NoEmptyInside.ne_of_mem_branches (h : NoEmptyInside d) (hd : DistinctKeys d)
    {branch : List String × Value} (hbranch : branch ∈ branches d) : branch.2 ≠ .document [] :=
  fun hempty => h branch.1 (names_ne_nil hbranch)
    ((walk?_of_mem_branches hd hbranch).trans (congrArg some hempty))

theorem child_of_not_document {key : String}
    (h : ∀ fields, Dict.get? d key ≠ some (.document fields)) : child d key = [] := by
  unfold child
  split
  · rename_i fields hget
    exact absurd hget (h fields)
  · rfl

/-- Writing the branches of a patch one after the other is merging it. -/
theorem assignAll_branches_eq_merge (hp : DistinctKeys patch)
    (h : ∀ branch ∈ branches patch, branch.2 ≠ .document []) (d : Document) :
    assignAll d (branches patch) = merge d patch := by
  induction patch using induct generalizing d with
  | nil => rfl
  | leaf key value rest hleaf ih =>
    obtain ⟨-, -, hrest⟩ := distinctKeys_cons.1 hp
    rw [branches_leaf_cons hleaf] at h ⊢
    obtain ⟨hvalue, hinner⟩ := List.forall_mem_cons.1 h
    have hdoc : value.isDocument = false := by
      rw [Bool.eq_false_iff]
      exact fun hdoc => hvalue (Value.eq_document_nil_of_isLeaf hleaf hdoc)
    rw [assignAll_cons, assignAt, ih hrest hinner, merge_cons, mergeOver_of_isLeaf hdoc]
  | node key fields rest hfields ihfields ih =>
    obtain ⟨-, hvalue, hrest⟩ := distinctKeys_cons.1 hp
    rw [branches_node_cons hfields] at h ⊢
    have hwritten : ∀ d : Document, assignAll d (branches fields) = merge d fields :=
      ihfields hvalue fun branch hbranch =>
        h (key :: branch.1, branch.2) (List.mem_append_left _ (Value.mem_under.2 ⟨_, hbranch, rfl⟩))
    have hover : Value.document (assignAll (child d key) (branches fields)) =
        mergeOver (Dict.get? d key) (.document fields) := by
      rcases mergeOver_document (Dict.get? d key) fields with ⟨inner, hget, hover⟩ | ⟨hget, hover⟩
      · rw [hover, child_of_get? hget, hwritten]
      · rw [hover, child_of_not_document hget, assignAll_branches hvalue [] (by simp [Dict.keys]),
          List.nil_append]
    rw [assignAll_append, assignAll_under (branches_ne_nil hfields) (fun _ => names_ne_nil), hover,
      ih hrest (fun branch hbranch => h branch (List.mem_append_right _ hbranch)), merge_cons]

/-- Without dots in names, writing the leaves of a patch at their paths is merging it. -/
theorem foldl_assign_flatten (hfree : DotFree patch) (hp : DistinctKeys patch)
    (hne : NoEmptyInside patch) (d : Document) :
    (flatten patch).foldl (fun d leaf => assign d leaf.1 leaf.2) d = merge d patch := by
  rw [flatten_eq_map_branches hfree hp, foldl_assign, map_segments_flatBranch hfree]
  exact assignAll_branches_eq_merge hp (fun _ => hne.ne_of_mem_branches hp) d

/-! ## Merging once more -/

/-- A patch changes nothing where each of its values over the old one is the old one. -/
theorem merge_eq_self (h : ∀ field ∈ patch, ∃ old, Dict.get? d field.1 = some old ∧
    mergeOver (some old) field.2 = old) : merge d patch = d := by
  induction patch with
  | nil => rfl
  | cons field rest ih =>
    obtain ⟨⟨old, hget, hover⟩, hrest⟩ := List.forall_mem_cons.1 h
    obtain ⟨key, value⟩ := field
    rw [merge_cons, hget, hover, Dict.insert_eq_self hget, ih hrest]

theorem mergeOver_none (value : Value) : mergeOver none value = value := by
  cases value <;> rfl

theorem merge_merge_self_of_forall (hp : Dict.HasDistinctKeys patch)
    (h : ∀ field ∈ patch, ∀ old, mergeOver (some (mergeOver old field.2)) field.2 =
      mergeOver old field.2) (d : Document) : merge (merge d patch) patch = merge d patch := by
  refine merge_eq_self fun field hfield => ⟨_, ?_, h field hfield (Dict.get? d field.1)⟩
  rw [get?_merge hp, (Dict.get?_eq_some_iff_mem hp).2 hfield]
  rfl

/-- A value over what it left is that. -/
theorem mergeOver_mergeOver {value : Value} (hvalue : value.DistinctKeys) (old : Option Value) :
    mergeOver (some (mergeOver old value)) value = mergeOver old value := by
  induction value using Value.induct_document generalizing old with
  | plain value hdoc => rw [mergeOver_of_isLeaf hdoc, mergeOver_of_isLeaf hdoc]
  | document fields ih =>
    have hd : DistinctKeys fields := hvalue
    have hinner : ∀ field ∈ fields, ∀ old, mergeOver (some (mergeOver old field.2)) field.2 =
        mergeOver old field.2 := fun field hfield => ih field hfield (hd.value hfield)
    rcases mergeOver_document old fields with ⟨inner, -, hover⟩ | ⟨-, hover⟩
    · rw [hover]
      exact congrArg Value.document (merge_merge_self_of_forall hd.keys hinner inner)
    · -- Written whole, the fields are merged into themselves.
      rw [hover]
      refine congrArg Value.document (merge_eq_self fun field hfield =>
        ⟨field.2, (Dict.get?_eq_some_iff_mem hd.keys).2 hfield, ?_⟩)
      have hself := hinner field hfield none
      rwa [mergeOver_none] at hself

theorem merge_merge_self (hp : DistinctKeys patch) (d : Document) :
    merge (merge d patch) patch = merge d patch :=
  merge_merge_self_of_forall hp.keys (fun _ hfield => mergeOver_mergeOver (hp.value hfield)) d

/-- Merging a patch without dots in names and without empty documents inside is writing each of its
leaves at its path, in their order, whatever the target is; and merging a patch once more changes
nothing. -/
theorem merge_writes_leaves :
    (∀ target patch : Document, DotFree patch → DistinctKeys patch → NoEmptyInside patch →
      merge target patch =
        (flatten patch).foldl (fun d leaf => assign d leaf.1 leaf.2) target) ∧
    ∀ target patch : Document, DistinctKeys patch →
      merge (merge target patch) patch = merge target patch :=
  ⟨fun target _ hfree hp hne => (foldl_assign_flatten hfree hp hne target).symm,
    fun target _ hp => merge_merge_self hp target⟩

/-- A patch that goes into a document, puts a document in place of a number and of a text, and
appends a field, with fields of the target in another order; and a patch with a dot in a name and
documents without fields. -/
theorem merge_writes_leaves_tags :
    let target : Document := [("data", .int32 1),
      ("tags", .document [("a", .string "x"), ("b", .null)]), ("a.b", .int32 2)]
    let patch : Document := [("tags", .document [("c", .null), ("a", .document [("", .int32 3)])]),
      ("name", .string "Ann"), ("data", .document [("age", .int32 3)])]
    let dotted : Document := [("a.b", .document []),
      ("tags", .document [("b", .document []), ("a.c", .null)])]
    let merged : Document := [("data", .document [("age", .int32 3)]),
      ("tags", .document [("a", .document [("", .int32 3)]), ("b", .null), ("c", .null)]),
      ("a.b", .int32 2), ("name", .string "Ann")]
    patch.DotFree ∧ patch.DistinctKeys ∧ patch.NoEmptyInside ∧ dotted.DistinctKeys ∧
      merge target patch = merged ∧
      (flatten patch).foldl (fun d leaf => assign d leaf.1 leaf.2) target = merged ∧
      merge (merge target patch) patch = merged ∧
      merge (merge target dotted) dotted = merge target dotted := by
  intro target patch dotted merged
  have hfree : patch.DotFree := by
    simp [patch, DotFree, Value.DotFree, Value.FieldsDotFree]
  have hpatch : patch.DistinctKeys := by
    simp [patch, DistinctKeys, Value.DistinctKeys, Value.FieldsDistinctKeys]
  have hdotted : dotted.DistinctKeys := by
    simp [dotted, DistinctKeys, Value.DistinctKeys, Value.FieldsDistinctKeys]
  have hinside : patch.NoEmptyInside := fun names hne => walk?_ne_of_branches hne rfl <| by
    simp [patch, branches, Value.fieldBranches, Value.branches, Value.under]
  have hmerged : merge target patch = merged := rfl
  obtain ⟨hwrite, hagain⟩ := merge_writes_leaves
  exact ⟨hfree, hpatch, hinside, hdotted, hmerged,
    (hwrite target patch hfree hpatch hinside).symm.trans hmerged,
    (hagain target patch hpatch).trans hmerged, hagain target dotted hdotted⟩

end Document

end FieldGuard
