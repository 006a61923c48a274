import FieldGuard.Proofs.Document.Nesting

/-!
# Pruning documents

A document without some of its branches, taken out where they stand: a document inside goes with
the last of its branches. Pruning is what redaction comes to where no name has a dot, and it says
at once which fields stay and in which order.

* `branches_prune`: the branches of a pruned document are those kept, in order;
* `prune_prune`: pruning twice is pruning once, by both conditions;
* `nest_filter_flatten`: flattening, keeping some of the leaves and building again prunes;
* `redact_eq_prune`, `project_eq_prune`: so redactions and projections prune;
* `flatten_redact`: the leaves of a redacted document are those outside of the paths.
-/

namespace FieldGuard

namespace Value

mutual

/-- The value with the branches to keep; none if none of them is kept. -/
def prune (keep : List String → Bool) : Value → Option Value
  | document (field :: fields) =>
    match pruneFields keep (field :: fields) with
    | [] => none
    | kept => some (document kept)
  | value => if keep [] then some value else none

/-- The fields with the branches to keep. -/
def pruneFields (keep : List String → Bool) : List (String × Value) → List (String × Value)
  | [] => []
  | (key, value) :: rest =>
    match prune (fun names => keep (key :: names)) value with
    | some kept => (key, kept) :: pruneFields keep rest
    | none => pruneFields keep rest

end

end Value

namespace Document

open Value (isLeaf under mem_under)

variable {d : Document}

/-- The document with the branches to keep. -/
def prune (keep : List String → Bool) (d : Document) : Document :=
  Value.pruneFields keep d

@[simp] theorem prune_nil (keep : List String → Bool) : prune keep [] = [] := rfl

theorem prune_leaf_cons (keep : List String → Bool) {key : String} {value : Value}
    (h : value.isLeaf = true) (rest : Document) :
    prune keep ((key, value) :: rest) =
      if keep [key] then (key, value) :: prune keep rest else prune keep rest := by
  have hvalue : value.prune (fun names => keep (key :: names)) =
      if keep [key] then some value else none := by
    unfold Value.prune
    split
    · simp [isLeaf] at h
    · rfl
  rw [prune, Value.pruneFields, hvalue]
  by_cases hk : keep [key] = true
  · rw [if_pos hk, if_pos hk]
    rfl
  · rw [if_neg hk, if_neg hk]
    rfl

theorem prune_node_cons (keep : List String → Bool) {fields : Document} (h : fields ≠ [])
    (key : String) (rest : Document) :
    prune keep ((key, .document fields) :: rest) =
      if prune (fun names => keep (key :: names)) fields = [] then prune keep rest
      else
        (key, .document (prune (fun names => keep (key :: names)) fields)) :: prune keep rest := by
  obtain ⟨field, more, rfl⟩ := List.exists_cons_of_ne_nil h
  rw [prune, Value.pruneFields, Value.prune]
  by_cases hnil : prune (fun names => keep (key :: names)) (field :: more) = []
  · rw [if_pos hnil]
    rw [prune] at hnil
    rw [hnil]
    rfl
  · rw [if_neg hnil]
    obtain ⟨first, kept, hk⟩ := List.exists_cons_of_ne_nil hnil
    rw [hk]
    rw [prune] at hk
    rw [hk]
    rfl

/-! ## What is kept -/

/-- The branches of a pruned document are those kept, in order. -/
theorem branches_prune (keep : List String → Bool) (d : Document) :
    branches (prune keep d) = (branches d).filter fun branch => keep branch.1 := by
  induction d using induct generalizing keep with
  | nil => rfl
  | leaf key value rest hleaf ih =>
    rw [prune_leaf_cons keep hleaf, branches_leaf_cons hleaf, List.filter_cons, ← ih keep]
    split
    · rw [branches_leaf_cons hleaf]
    · rfl
  | node key fields rest hfields ihfields ih =>
    have hinner : (under key (branches fields)).filter (fun branch => keep branch.1) =
        under key (branches (prune (fun names => keep (key :: names)) fields)) := by
      rw [under, List.filter_map, ihfields]
      rfl
    rw [prune_node_cons keep hfields, branches_node_cons hfields, List.filter_append, hinner,
      ← ih keep]
    split
    · rename_i hnil
      rw [hnil]
      rfl
    · rename_i hne
      rw [branches_node_cons hne]

theorem keys_prune_sublist (keep : List String → Bool) (d : Document) :
    (Dict.keys (prune keep d)).Sublist (Dict.keys d) := by
  induction d using induct with
  | nil => exact .slnil
  | leaf key value rest hleaf ih =>
    rw [prune_leaf_cons keep hleaf]
    split
    · exact ih.cons_cons key
    · exact ih.cons key
  | node key fields rest hfields _ ih =>
    rw [prune_node_cons keep hfields]
    split
    · exact ih.cons key
    · exact ih.cons_cons key

theorem dotFree_prune (keep : List String → Bool) (h : DotFree d) : DotFree (prune keep d) := by
  induction d using induct generalizing keep with
  | nil => exact h
  | leaf key value rest hleaf ih =>
    obtain ⟨hkey, hvalue, hrest⟩ := dotFree_cons.1 h
    rw [prune_leaf_cons keep hleaf]
    split
    · exact dotFree_cons.2 ⟨hkey, hvalue, ih keep hrest⟩
    · exact ih keep hrest
  | node key fields rest hfields ihfields ih =>
    obtain ⟨hkey, hvalue, hrest⟩ := dotFree_cons.1 h
    rw [prune_node_cons keep hfields]
    split
    · exact ih keep hrest
    · exact dotFree_cons.2 ⟨hkey, ihfields _ hvalue, ih keep hrest⟩

theorem distinctKeys_prune (keep : List String → Bool) (h : DistinctKeys d) :
    DistinctKeys (prune keep d) := by
  induction d using induct generalizing keep with
  | nil => exact h
  | leaf key value rest hleaf ih =>
    obtain ⟨hkey, hvalue, hrest⟩ := distinctKeys_cons.1 h
    have hnew : key ∉ Dict.keys (prune keep rest) := fun hmem =>
      hkey ((keys_prune_sublist keep rest).subset hmem)
    rw [prune_leaf_cons keep hleaf]
    split
    · exact distinctKeys_cons.2 ⟨hnew, hvalue, ih keep hrest⟩
    · exact ih keep hrest
  | node key fields rest hfields ihfields ih =>
    obtain ⟨hkey, hvalue, hrest⟩ := distinctKeys_cons.1 h
    have hnew : key ∉ Dict.keys (prune keep rest) := fun hmem =>
      hkey ((keys_prune_sublist keep rest).subset hmem)
    rw [prune_node_cons keep hfields]
    split
    · exact ih keep hrest
    · exact distinctKeys_cons.2 ⟨hnew, ihfields _ hvalue, ih keep hrest⟩

/-! ## Pruning twice -/

/-- Only what is said of the branches of a document matters. -/
theorem prune_congr {keep keep' : List String → Bool}
    (h : ∀ branch ∈ branches d, keep branch.1 = keep' branch.1) : prune keep d = prune keep' d := by
  induction d using induct generalizing keep keep' with
  | nil => rfl
  | leaf key value rest hleaf ih =>
    rw [branches_leaf_cons hleaf, List.forall_mem_cons] at h
    rw [prune_leaf_cons keep hleaf, prune_leaf_cons keep' hleaf, ih h.2, h.1]
  | node key fields rest hfields ihfields ih =>
    rw [branches_node_cons hfields, List.forall_mem_append] at h
    have hinner : prune (fun names => keep (key :: names)) fields =
        prune (fun names => keep' (key :: names)) fields :=
      ihfields fun branch hbranch => h.1 _ (mem_under.2 ⟨branch, hbranch, rfl⟩)
    rw [prune_node_cons keep hfields, prune_node_cons keep' hfields, ih h.2, hinner]

/-- Pruning twice is pruning once, by both conditions. -/
theorem prune_prune (keep keep' : List String → Bool) (d : Document) :
    prune keep (prune keep' d) = prune (fun names => keep' names && keep names) d := by
  induction d using induct generalizing keep keep' with
  | nil => rfl
  | leaf key value rest hleaf ih =>
    rw [prune_leaf_cons keep' hleaf, prune_leaf_cons _ hleaf, ← ih keep keep']
    cases keep' [key] with
    | false => rfl
    | true => exact prune_leaf_cons keep hleaf _
  | node key fields rest hfields ihfields ih =>
    rw [prune_node_cons keep' hfields, prune_node_cons _ hfields, ← ih keep keep',
      ← ihfields (fun names => keep (key :: names)) fun names => keep' (key :: names)]
    by_cases hnil : prune (fun names => keep' (key :: names)) fields = []
    · rw [if_pos hnil, hnil, if_pos (prune_nil _)]
    · rw [if_neg hnil, prune_node_cons keep hnil]

theorem prune_comm (keep keep' : List String → Bool) (d : Document) :
    prune keep (prune keep' d) = prune keep' (prune keep d) := by
  rw [prune_prune, prune_prune]
  exact prune_congr fun _ _ => Bool.and_comm _ _

/-! ## Redactions and projections prune -/

section

variable (hfree : DotFree d) (hd : DistinctKeys d)

include hfree hd

theorem filter_flatten (keep : String → Bool) :
    (flatten d).filter (fun leaf => keep leaf.1) =
      (branches (prune (fun names => keep (Path.ofSegments names)) d)).map flatBranch := by
  rw [flatten_eq_map_branches hfree hd, List.filter_map, branches_prune]
  rfl

/-- Flattening, keeping some of the leaves and building again prunes. -/
theorem nest_filter_flatten (keep : String → Bool) :
    nest ((flatten d).filter fun leaf => keep leaf.1) =
      prune (fun names => keep (Path.ofSegments names)) d := by
  rw [filter_flatten hfree hd,
    nest_map_flatBranch (dotFree_prune _ hfree) (distinctKeys_prune _ hd)]

end

/-- Whether names lead to a place at or below one of the paths. -/
def isInside (paths : List String) (names : List String) : Bool :=
  Path.isWithinAny (Path.ofSegments names) paths

/-- Whether names lead outside of all the paths. -/
def isOutside (paths : List String) (names : List String) : Bool :=
  !Path.isWithinAny (Path.ofSegments names) paths

theorem withoutPaths_flatten (hfree : DotFree d) (hd : DistinctKeys d) (paths : List String) :
    withoutPaths (flatten d) paths = (branches (prune (isOutside paths) d)).map flatBranch :=
  filter_flatten hfree hd fun path => !Path.isWithinAny path paths

theorem nest_withoutPaths_flatten (hfree : DotFree d) (hd : DistinctKeys d) (paths : List String) :
    nest (withoutPaths (flatten d) paths) = prune (isOutside paths) d :=
  nest_filter_flatten hfree hd fun path => !Path.isWithinAny path paths

/-- A projection to some paths prunes. -/
theorem project_eq_prune (hfree : DotFree d) (hd : DistinctKeys d) {paths : List String}
    (h : paths ≠ []) : project d paths = prune (isInside (Path.outermost paths)) d := by
  have hpaths : paths.isEmpty = false := List.isEmpty_eq_false_iff.2 h
  simp only [project, projectFlat, hpaths, Bool.false_eq_true, if_false]
  exact nest_filter_flatten hfree hd fun path => Path.isWithinAny path (Path.outermost paths)

theorem dotFree_project (hfree : DotFree d) (hd : DistinctKeys d) (paths : List String) :
    DotFree (project d paths) := by
  by_cases h : paths = []
  · rwa [h]
  · rw [project_eq_prune hfree hd h]
    exact dotFree_prune _ hfree

theorem distinctKeys_project (hfree : DotFree d) (hd : DistinctKeys d) (paths : List String) :
    DistinctKeys (project d paths) := by
  by_cases h : paths = []
  · rwa [h]
  · rw [project_eq_prune hfree hd h]
    exact distinctKeys_prune _ hd

/-- Where nothing is left out, the document is as it was. -/
theorem nest_withoutPaths_nil (hfree : DotFree d) (hd : DistinctKeys d) :
    nest (withoutPaths (flatten d) []) = d := by
  have hall : withoutPaths (flatten d) [] = flatten d :=
    List.filter_eq_self.2 fun _ _ => rfl
  rw [hall, nest_flatten hfree hd]

/-- Redacting by no path is no case apart. -/
theorem redact_eq_nest (hfree : DotFree d) (hd : DistinctKeys d) (paths : List String) :
    redact d paths = nest (withoutPaths (flatten d) paths) := by
  unfold redact
  split
  · rename_i hpaths
    rw [List.isEmpty_iff.1 hpaths, nest_withoutPaths_nil hfree hd]
  · rfl

theorem redact_eq_prune (hfree : DotFree d) (hd : DistinctKeys d) (paths : List String) :
    redact d paths = prune (isOutside paths) d := by
  rw [redact_eq_nest hfree hd, nest_withoutPaths_flatten hfree hd]

/-- The leaves of a redacted document are those outside of the paths, in order. -/
theorem flatten_redact (hfree : DotFree d) (hd : DistinctKeys d) (paths : List String) :
    flatten (redact d paths) = withoutPaths (flatten d) paths := by
  rw [redact_eq_prune hfree hd, withoutPaths_flatten hfree hd,
    flatten_eq_map_branches (dotFree_prune _ hfree) (distinctKeys_prune _ hd)]

end Document

end FieldGuard
