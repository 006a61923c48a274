import FieldGuard.Document.Merge
import FieldGuard.Proofs.Document.Leaves

/-!
# Merging at leaves

A patch whose branches all stand at branches of a document replaces leaves and does nothing else.

* `merge_eq_map`: a patch with no new names changes each field on its own;
* `merge_eq_mapLeaves`: merging a patch that replaces leaves by plain values.
-/

namespace FieldGuard

namespace Document

open Value (isLeaf mergeOver)

variable {d patch : Document}

/-! ## Fields -/

theorem mem_branches_cons_iff (hd : Dict.HasDistinctKeys d) {key : String} {names : List String}
    {value : Value} :
    (key :: names, value) ∈ branches d ↔
      ∃ inner, Dict.get? d key = some inner ∧ (names, value) ∈ inner.branches := by
  constructor
  · intro h
    obtain ⟨k, inner, branch, hmem, hbranch, e⟩ := exists_mem_of_mem_branches h
    cases e
    exact ⟨inner, (Dict.get?_eq_some_iff_mem hd).2 hmem, hbranch⟩
  · rintro ⟨inner, hget, hbranch⟩
    exact mem_branches_of_mem (Dict.mem_of_get? hget) hbranch

/-- Some branch goes through each field. -/
theorem exists_branch_of_mem_keys {key : String} (h : key ∈ Dict.keys d) :
    ∃ names value, (key :: names, value) ∈ branches d := by
  obtain ⟨value, hmem⟩ := Dict.mem_keys.1 h
  obtain ⟨first, more, hfirst⟩ := List.exists_cons_of_ne_nil (branches_value_ne_nil value)
  exact ⟨first.1, first.2, mem_branches_of_mem hmem (hfirst ▸ List.mem_cons_self)⟩

/-! ## Merging -/

theorem merge_cons (d : Document) (key : String) (value : Value) (rest : Document) :
    merge d ((key, value) :: rest) =
      merge (Dict.insert d key (mergeOver (Dict.get? d key) value)) rest := rfl

theorem mergeOver_of_isLeaf {value : Value} (hdoc : value.isDocument = false)
    (old : Option Value) : mergeOver old value = value := by
  cases value with
  | document _ => cases hdoc
  | _ => rfl

/-- Over a document, a document is merged into it; over anything else, it is written whole. -/
theorem mergeOver_document (old : Option Value) (fields : Document) :
    (∃ inner, old = some (.document inner) ∧
      mergeOver old (.document fields) = .document (merge inner fields)) ∨
    (∀ inner, old ≠ some (.document inner)) ∧
      mergeOver old (.document fields) = .document fields := by
  cases old with
  | none => exact .inr ⟨by simp, rfl⟩
  | some old =>
    cases old with
    | document inner => exact .inl ⟨inner, rfl, rfl⟩
    | _ => exact .inr ⟨by simp, rfl⟩

theorem mem_keys_merge {key : String} :
    key ∈ Dict.keys (merge d patch) ↔ key ∈ Dict.keys d ∨ key ∈ Dict.keys patch := by
  induction patch generalizing d with
  | nil => simp [merge, Value.mergeFields, Dict.keys]
  | cons field rest ih =>
    obtain ⟨k, value⟩ := field
    rw [merge_cons, ih, Dict.mem_keys_insert]
    simp [Dict.keys, or_assoc, or_left_comm]

theorem get?_merge_of_not_mem {key : String} (h : key ∉ Dict.keys patch) :
    Dict.get? (merge d patch) key = Dict.get? d key := by
  induction patch generalizing d with
  | nil => rfl
  | cons field rest ih =>
    obtain ⟨k, value⟩ := field
    simp only [Dict.keys, List.map_cons, List.mem_cons, not_or] at h
    rw [merge_cons, ih h.2, Dict.get?_insert_of_ne _ _ h.1]

/-- A patch writes to each field on its own. -/
theorem get?_merge (hp : Dict.HasDistinctKeys patch) (key : String) :
    Dict.get? (merge d patch) key = (Dict.get? patch key).elim (Dict.get? d key)
      fun value => some (mergeOver (Dict.get? d key) value) := by
  induction patch generalizing d with
  | nil => rfl
  | cons field rest ih =>
    obtain ⟨k, value⟩ := field
    obtain ⟨hk, hrest⟩ := List.nodup_cons.1 hp
    rw [merge_cons, ih hrest, Dict.get?_cons]
    by_cases hkey : k = key
    · subst hkey
      rw [if_pos rfl, Dict.get?_eq_none_iff.2 hk]
      exact Dict.get?_insert_self _ _ _
    · rw [if_neg hkey, Dict.get?_insert_of_ne _ _ (Ne.symm hkey)]

/-- The patch writes no plain value over a document inside. -/
def KeepsDocuments (d patch : Document) : Prop :=
  ∀ names value, (names, value) ∈ branches patch → value.isDocument = false →
    ∀ fields, lookupAt? d names ≠ some (.document fields)

section

variable {key : String} {fields : Document}

theorem KeepsDocuments.isDocument (h : KeepsDocuments d patch)
    (hget : Dict.get? d key = some (.document fields)) {value : Value}
    (hpatch : Dict.get? patch key = some value) : value.isDocument = true := by
  by_contra hdoc
  rw [Bool.not_eq_true] at hdoc
  have hbranch : ([key], value) ∈ branches patch :=
    mem_branches_of_mem (Dict.mem_of_get? hpatch) (by
      rw [Value.branches_of_isLeaf (Value.isLeaf_of_not_isDocument hdoc)]
      exact List.mem_singleton_self _)
  exact h _ _ hbranch hdoc fields (by rw [lookupAt?, Path.ofSegments, hget])

theorem KeepsDocuments.get? (h : KeepsDocuments d patch)
    (hkeys : ∀ key ∈ Dict.keys d, '.' ∉ key.toList)
    (hget : Dict.get? d key = some (.document fields)) {others : Document}
    (hpatch : Dict.get? patch key = some (.document others)) : KeepsDocuments fields others := by
  intro names value hbranch hdoc
  have hothers : others ≠ [] := fun e => by simp [e] at hbranch
  rw [← lookupAt?_cons hkeys hget (names_ne_nil hbranch)]
  exact h _ _ (mem_branches_of_mem (Dict.mem_of_get? hpatch)
    (by rwa [branches_document hothers])) hdoc

end

/-- A patch that keeps the documents inside keeps the names of all fields, so that dots in them
stay. -/
theorem dotFree_of_merge (hd : DistinctKeys d) (hp : DistinctKeys patch)
    (hkeeps : KeepsDocuments d patch) (h : DotFree (merge d patch)) : DotFree d := by
  induction hvalue : Value.document patch using Value.induct_document generalizing d patch with
  | plain value hdoc =>
    subst hvalue
    cases hdoc
  | document inner ih =>
    obtain rfl := Value.document.inj hvalue
    have hkeys : ∀ key ∈ Dict.keys d, '.' ∉ key.toList := fun key hkey =>
      h.dot_not_mem (mem_keys_merge.2 (.inl hkey))
    refine dotFree_iff.2 fun field hfield => ⟨hkeys _ (Dict.mem_keys_of_mem hfield), ?_⟩
    obtain ⟨key, old⟩ := field
    have hget := (Dict.get?_eq_some_iff_mem hd.keys).2 hfield
    have hmerged := get?_merge (d := d) hp.keys key
    rw [hget] at hmerged
    cases hpatch : Dict.get? patch key with
    | none =>
      rw [hpatch] at hmerged
      exact dotFree_of_get? h hmerged
    | some value =>
      rw [hpatch] at hmerged
      cases old with
      | document fields =>
        have hdoc := hkeeps.isDocument hget hpatch
        cases value with
        | document others =>
          have hbelow : DotFree (merge fields others) := dotFree_of_get? h hmerged
          exact ih _ (Dict.mem_of_get? hpatch) (hd.get? hget) (hp.get? hpatch)
            (hkeeps.get? hkeys hget hpatch) hbelow rfl
        | _ => cases hdoc
      | _ => trivial

/-- A patch with no new names changes each field on its own. -/
theorem merge_eq_map (hd : Dict.HasDistinctKeys d) (hp : Dict.HasDistinctKeys patch)
    (h : Dict.keys patch ⊆ Dict.keys d) :
    merge d patch = d.map fun field =>
      (field.1, (Dict.get? patch field.1).elim field.2 (mergeOver (some field.2))) := by
  induction patch generalizing d with
  | nil => exact (List.map_id d).symm
  | cons field rest ih =>
    obtain ⟨key, value⟩ := field
    obtain ⟨hkey, hrest⟩ := List.nodup_cons.1 hp
    have hmem : key ∈ Dict.keys d := h List.mem_cons_self
    have hkeys : Dict.keys (Dict.insert d key (mergeOver (Dict.get? d key) value)) =
        Dict.keys d := by
      rw [Dict.keys_insert, if_pos hmem]
    rw [merge_cons, ih (hd.insert _ _) hrest (by
      rw [hkeys]
      exact fun k hk => h (List.mem_cons_of_mem _ hk)), Dict.insert_eq_map hd hmem, List.map_map]
    refine List.map_congr_left fun field hfield => ?_
    obtain ⟨k, old⟩ := field
    simp only [Function.comp_apply, Dict.get?_cons]
    by_cases hk : k = key
    · subst hk
      have hget := (Dict.get?_eq_some_iff_mem hd).2 hfield
      rw [if_pos rfl, if_pos rfl, Dict.get?_eq_none_iff.2 hkey, hget]
      rfl
    · rw [if_neg hk, if_neg (Ne.symm hk)]

theorem distinctKeys_merge (hd : DistinctKeys d) (hp : DistinctKeys patch) :
    DistinctKeys (merge d patch) := by
  induction patch using induct generalizing d with
  | nil => exact hd
  | leaf key value rest hleaf ih =>
    obtain ⟨-, hvalue, hrest⟩ := distinctKeys_cons.1 hp
    rw [merge_cons]
    refine ih (distinctKeys_insert hd key ?_) hrest
    cases hdoc : value.isDocument with
    | false => rwa [mergeOver_of_isLeaf hdoc]
    | true =>
      obtain rfl := Value.eq_document_nil_of_isLeaf hleaf hdoc
      rcases mergeOver_document (Dict.get? d key) [] with ⟨inner, hget, hover⟩ | ⟨-, hover⟩
      · rw [hover]
        exact hd.get? hget
      · rwa [hover]
  | node key fields rest hfields ihfields ih =>
    obtain ⟨-, hvalue, hrest⟩ := distinctKeys_cons.1 hp
    rw [merge_cons]
    refine ih (distinctKeys_insert hd key ?_) hrest
    rcases mergeOver_document (Dict.get? d key) fields with ⟨inner, hget, hover⟩ | ⟨-, hover⟩
    · rw [hover]
      exact ihfields (hd.get? hget) hvalue
    · rwa [hover]

/-! ## Replacing leaves -/

/-- The branches of the patch are the leaves of the document that `g` replaces, with what it
replaces them by. -/
def Replaces (g : List String → Value → Option Value) (d patch : Document) : Prop :=
  ∀ names new, (names, new) ∈ branches patch ↔
    ∃ leaf, (names, leaf) ∈ branches d ∧ g names leaf = some new

variable {g : List String → Value → Option Value}

theorem Replaces.keys_subset (h : Replaces g d patch) : Dict.keys patch ⊆ Dict.keys d := by
  intro key hkey
  obtain ⟨names, new, hbranch⟩ := exists_branch_of_mem_keys hkey
  obtain ⟨leaf, hleaf, -⟩ := (h _ _).1 hbranch
  obtain ⟨k, value, inner, hmem, -, e⟩ := exists_mem_of_mem_branches hleaf
  cases e
  exact Dict.mem_keys_of_mem hmem

/-- What a patch replaces in one field of a document. -/
theorem Replaces.field (h : Replaces g d patch) (hd : DistinctKeys d) (hp : DistinctKeys patch)
    {field : String × Value} (hfield : field ∈ d) (names : List String) (new : Value) :
    (∃ value, Dict.get? patch field.1 = some value ∧ (names, new) ∈ value.branches) ↔
      ∃ leaf, (names, leaf) ∈ field.2.branches ∧ g (field.1 :: names) leaf = some new := by
  have hget := (Dict.get?_eq_some_iff_mem hd.keys).2 hfield
  rw [← mem_branches_cons_iff hp.keys, h]
  refine exists_congr fun leaf => and_congr_left fun _ => ?_
  rw [mem_branches_cons_iff hd.keys, hget]
  exact ⟨fun ⟨inner, e, hinner⟩ => Option.some.inj e ▸ hinner, fun hinner => ⟨_, rfl, hinner⟩⟩

/-- Merging a document field by field. -/
theorem merge_eq_mapLeaves_of_forall {f : List String → Value → Value} (hd : DistinctKeys d)
    (hp : DistinctKeys patch) (hkeys : Dict.keys patch ⊆ Dict.keys d)
    (h : ∀ field ∈ d, (Dict.get? patch field.1).elim field.2 (mergeOver (some field.2)) =
      field.2.mapLeaves fun names => f (field.1 :: names)) :
    merge d patch = mapLeaves f d := by
  rw [merge_eq_map hd.keys hp.keys hkeys, mapLeaves_eq_map]
  exact List.map_congr_left fun field hfield => by rw [h field hfield]

theorem mergeOver_eq_mapLeaves {old : Value} {patch : Option Value} (hold : old.DistinctKeys)
    (hpatch : ∀ value, patch = some value → value.DistinctKeys)
    (hg : ∀ {names leaf new}, g names leaf = some new → new.isDocument = false)
    (h : ∀ names new, (∃ value, patch = some value ∧ (names, new) ∈ value.branches) ↔
      ∃ leaf, (names, leaf) ∈ old.branches ∧ g names leaf = some new) :
    patch.elim old (mergeOver (some old)) =
      old.mapLeaves fun names leaf => (g names leaf).getD leaf := by
  induction old using Value.induct generalizing patch g with
  | leaf old hleaf =>
    have hbranches := Value.branches_of_isLeaf hleaf
    rw [Value.mapLeaves_of_isLeaf hleaf]
    cases patch with
    | none =>
      have hnone : g [] old = none := by
        rw [Option.eq_none_iff_forall_ne_some]
        intro new hnew
        obtain ⟨value, hvalue, -⟩ := (h [] new).2 ⟨old, by simp [hbranches], hnew⟩
        cases hvalue
      rw [hnone]
      rfl
    | some value =>
      -- Every branch of what is written is the empty one, so there is one leaf written.
      have hnames : ∀ branch ∈ value.branches, branch.1 = [] ∧ g [] old = some branch.2 := by
        intro branch hbranch
        obtain ⟨leaf, hmem, hnew⟩ := (h branch.1 branch.2).1 ⟨value, rfl, hbranch⟩
        rw [hbranches, List.mem_singleton] at hmem
        obtain ⟨hnil, rfl⟩ := Prod.mk.inj hmem
        exact ⟨hnil, hnil ▸ hnew⟩
      rcases Value.isLeaf_or_document value with hvalue | ⟨fields, hfields, rfl⟩
      · have hnew := (hnames ([], value) (by simp [Value.branches_of_isLeaf hvalue])).2
        rw [hnew]
        exact mergeOver_of_isLeaf (hg hnew) _
      · rw [branches_document hfields] at hnames
        obtain ⟨first, more, hfirst⟩ := List.exists_cons_of_ne_nil (branches_ne_nil hfields)
        have hmem : first ∈ branches fields := hfirst ▸ List.mem_cons_self
        exact absurd (hnames first hmem).1 (names_ne_nil hmem)
  | node fields hfields ih =>
    rw [branches_document hfields] at h
    cases patch with
    | none =>
      change Value.document fields = _
      refine (mapLeaves_eq_self_value fun branch hbranch => ?_).symm
      rw [branches_document hfields] at hbranch
      have hnone : g branch.1 branch.2 = none := by
        rw [Option.eq_none_iff_forall_ne_some]
        intro new hnew
        obtain ⟨value, hvalue, -⟩ := (h branch.1 new).2 ⟨branch.2, hbranch, hnew⟩
        cases hvalue
      rw [hnone]
      rfl
    | some value =>
      rcases Value.isLeaf_or_document value with hvalue | ⟨others, hothers, rfl⟩
      · obtain ⟨leaf, hmem, -⟩ := (h [] value).1
          ⟨value, rfl, by simp [Value.branches_of_isLeaf hvalue]⟩
        exact absurd rfl (names_ne_nil hmem)
      · have hreplaces : Replaces g fields others := fun names new => by
          rw [← h names new]
          constructor
          · intro hmem
            exact ⟨_, rfl, by rwa [branches_document hothers]⟩
          · rintro ⟨value, e, hmem⟩
            cases e
            rwa [branches_document hothers] at hmem
        have hp : DistinctKeys others := hpatch _ rfl
        rw [mapLeaves_document hfields]
        refine congrArg Value.document
          (merge_eq_mapLeaves_of_forall hold hp hreplaces.keys_subset fun field hfield => ?_)
        exact ih field hfield (DistinctKeys.value hold hfield)
          (fun value hvalue => hp.get? hvalue) hg (hreplaces.field hold hp hfield)

/-- Merging a patch that replaces leaves by values that are no documents replaces them in place. -/
theorem merge_eq_mapLeaves (hd : DistinctKeys d) (hp : DistinctKeys patch)
    (hg : ∀ {names leaf new}, g names leaf = some new → new.isDocument = false)
    (h : Replaces g d patch) :
    merge d patch = mapLeaves (fun names leaf => (g names leaf).getD leaf) d :=
  merge_eq_mapLeaves_of_forall hd hp h.keys_subset fun _ hfield =>
    mergeOver_eq_mapLeaves (hd.value hfield) (fun _ hvalue => hp.get? hvalue) hg
      (h.field hd hp hfield)

end Document

end FieldGuard
