import FieldGuard.Proofs.Document.Distinct
import FieldGuard.Proofs.Document.Walking

/-!
# Replacing leaves in place

* `mapLeaves`: a document with its leaves replaced in place, its names as they were;
* `branches_mapLeaves`: where leaves come in the place of leaves, the branches stay in place;
* `mapLeaves_congr`, `mapLeaves_mapLeaves`: what replaces the leaves decides, and one replacement
  after the other is one replacement;
* `mapLeaves_insert`: a field written before and one written after.
-/

namespace FieldGuard

namespace Value

mutual

/-- The value with its leaves replaced, each by what the names that lead to it and the leaf itself
say. -/
def mapLeaves (f : List String → Value → Value) : Value → Value
  | document (field :: fields) => document (mapFieldLeaves f (field :: fields))
  | value => f [] value

/-- The fields with their leaves replaced. -/
def mapFieldLeaves (f : List String → Value → Value) : List (String × Value) → List (String × Value)
  | [] => []
  | (key, value) :: rest =>
    (key, mapLeaves (fun names => f (key :: names)) value) :: mapFieldLeaves f rest

end

theorem mapLeaves_of_isLeaf {value : Value} (h : value.isLeaf = true)
    (f : List String → Value → Value) : value.mapLeaves f = f [] value := by
  unfold mapLeaves
  split
  · simp [isLeaf] at h
  · rfl

/-- Induction over a value: leaves, and documents with fields. -/
theorem induct {motive : Value → Prop} (leaf : ∀ value, isLeaf value = true → motive value)
    (node : ∀ fields, fields ≠ [] → (∀ field ∈ fields, motive field.2) → motive (document fields))
    (value : Value) : motive value := by
  have hfields : ∀ d : Document, ∀ field ∈ d, motive field.2 := by
    intro d
    induction d using Document.induct with
    | nil => simp
    | leaf key value rest hleaf ih => exact List.forall_mem_cons.2 ⟨leaf value hleaf, ih⟩
    | node key fields rest hne ihfields ih =>
      exact List.forall_mem_cons.2 ⟨node fields hne ihfields, ih⟩
  rcases isLeaf_or_document value with hleaf | ⟨fields, hne, rfl⟩
  · exact leaf value hleaf
  · exact node fields hne (hfields fields)

/-- Induction over a value: what is no document, and documents, with fields or without. -/
theorem induct_document {motive : Value → Prop}
    (plain : ∀ value, value.isDocument = false → motive value)
    (document : ∀ fields : Document, (∀ field ∈ fields, motive field.2) → motive (.document fields))
    (value : Value) : motive value := by
  induction value using induct with
  | leaf value hleaf =>
    cases hdoc : value.isDocument with
    | false => exact plain value hdoc
    | true =>
      rw [eq_document_nil_of_isLeaf hleaf hdoc]
      exact document [] (by simp)
  | node fields _ ih => exact document fields ih

end Value

namespace Document

open Value (isLeaf)

/-- The document with its leaves replaced, each by what the names that lead to it and the leaf
itself say. -/
def mapLeaves (f : List String → Value → Value) (d : Document) : Document :=
  Value.mapFieldLeaves f d

variable {d : Document}

theorem mapLeaves_eq_map (f : List String → Value → Value) (d : Document) :
    mapLeaves f d =
      d.map fun field => (field.1, field.2.mapLeaves fun names => f (field.1 :: names)) := by
  induction d with
  | nil => rfl
  | cons field rest ih => exact congrArg _ ih

theorem keys_mapLeaves (f : List String → Value → Value) (d : Document) :
    Dict.keys (mapLeaves f d) = Dict.keys d := by
  rw [mapLeaves_eq_map, Dict.keys, List.map_map]
  rfl

theorem mapLeaves_document {fields : Document} (h : fields ≠ [])
    (f : List String → Value → Value) :
    (Value.document fields).mapLeaves f = .document (mapLeaves f fields) := by
  obtain ⟨field, rest, rfl⟩ := List.exists_cons_of_ne_nil h
  rfl

/-- What replaces the leaves of a value decides. -/
theorem mapLeaves_congr_value {value : Value} {f g : List String → Value → Value}
    (h : ∀ branch ∈ value.branches, f branch.1 branch.2 = g branch.1 branch.2) :
    value.mapLeaves f = value.mapLeaves g := by
  induction value using Value.induct generalizing f g with
  | leaf value hleaf =>
    rw [Value.mapLeaves_of_isLeaf hleaf, Value.mapLeaves_of_isLeaf hleaf]
    exact h ([], value) (by rw [Value.branches_of_isLeaf hleaf]; exact List.mem_singleton_self _)
  | node fields hfields ih =>
    rw [mapLeaves_document hfields, mapLeaves_document hfields, mapLeaves_eq_map, mapLeaves_eq_map]
    refine congrArg _ (List.map_congr_left fun field hfield => congrArg _ ?_)
    exact ih field hfield fun branch hbranch =>
      h _ (by rw [branches_document hfields]; exact mem_branches_of_mem hfield hbranch)

theorem mapLeaves_id (value : Value) : value.mapLeaves (fun _ leaf => leaf) = value := by
  induction value using Value.induct with
  | leaf value hleaf => exact Value.mapLeaves_of_isLeaf hleaf _
  | node fields hfields ih =>
    rw [mapLeaves_document hfields, mapLeaves_eq_map]
    refine congrArg _ ((List.map_congr_left fun field hfield => ?_).trans (List.map_id fields))
    exact congrArg (field.1, ·) (ih field hfield)

/-- Where no leaf is replaced by another one, the value is as it was. -/
theorem mapLeaves_eq_self_value {value : Value} {f : List String → Value → Value}
    (h : ∀ branch ∈ value.branches, f branch.1 branch.2 = branch.2) :
    value.mapLeaves f = value :=
  (mapLeaves_congr_value h).trans (mapLeaves_id value)

theorem mapLeaves_congr {f g : List String → Value → Value}
    (h : ∀ branch ∈ branches d, f branch.1 branch.2 = g branch.1 branch.2) :
    mapLeaves f d = mapLeaves g d := by
  rw [mapLeaves_eq_map, mapLeaves_eq_map]
  refine List.map_congr_left fun field hfield => congrArg _ ?_
  exact mapLeaves_congr_value fun branch hbranch => h _ (mem_branches_of_mem hfield hbranch)

theorem mapLeaves_eq_self {f : List String → Value → Value}
    (h : ∀ branch ∈ branches d, f branch.1 branch.2 = branch.2) : mapLeaves f d = d := by
  rw [mapLeaves_eq_map]
  refine (List.map_congr_left fun field hfield => congrArg (field.1, ·) ?_).trans (List.map_id d)
  exact mapLeaves_eq_self_value fun branch hbranch => h _ (mem_branches_of_mem hfield hbranch)

theorem mapLeaves_ne_nil (h : d ≠ []) (f : List String → Value → Value) : mapLeaves f d ≠ [] := by
  rw [mapLeaves_eq_map, Ne, List.map_eq_nil_iff]
  exact h

theorem get?_mapLeaves (f : List String → Value → Value) (d : Document) (key : String) :
    Dict.get? (mapLeaves f d) key =
      (Dict.get? d key).map (Value.mapLeaves fun names => f (key :: names)) := by
  rw [mapLeaves_eq_map]
  exact Dict.get?_map (fun key value => value.mapLeaves fun names => f (key :: names)) d key

/-- A field may be written before the leaves are replaced or, its leaves replaced, after. -/
theorem mapLeaves_insert (f : List String → Value → Value) (d : Document) (key : String)
    (value : Value) : mapLeaves f (Dict.insert d key value) =
      Dict.insert (mapLeaves f d) key (value.mapLeaves fun names => f (key :: names)) := by
  induction d with
  | nil => rfl
  | cons field rest ih =>
    obtain ⟨k, old⟩ := field
    simp only [mapLeaves_eq_map] at ih ⊢
    by_cases hk : k = key
    · subst hk
      simp [Dict.insert]
    · rw [Dict.insert_cons_of_ne hk, List.map_cons, List.map_cons, Dict.insert_cons_of_ne hk, ih]

theorem mapLeaves_leaf_cons {value : Value} (h : value.isLeaf = true)
    (f : List String → Value → Value) (key : String) (rest : Document) :
    mapLeaves f ((key, value) :: rest) = (key, f [key] value) :: mapLeaves f rest := by
  rw [mapLeaves, Value.mapFieldLeaves, Value.mapLeaves_of_isLeaf h]
  rfl

theorem mapLeaves_node_cons {fields : Document} (h : fields ≠ [])
    (f : List String → Value → Value) (key : String) (rest : Document) :
    mapLeaves f ((key, .document fields) :: rest) =
      (key, .document (mapLeaves (fun names => f (key :: names)) fields)) :: mapLeaves f rest := by
  rw [mapLeaves, Value.mapFieldLeaves, mapLeaves_document h]
  rfl

/-! ## Leaves in the place of leaves -/

section

variable {f : List String → Value → Value}
  (hf : ∀ names leaf, isLeaf leaf = true → isLeaf (f names leaf) = true)

include hf

/-- Where leaves are replaced by leaves, the branches stay in place, with other values. -/
theorem branches_mapLeaves (d : Document) :
    branches (mapLeaves f d) = (branches d).map fun branch => (branch.1, f branch.1 branch.2) := by
  induction d using induct generalizing f with
  | nil => rfl
  | leaf key value rest hleaf ih =>
    rw [mapLeaves_leaf_cons hleaf, branches_leaf_cons (hf _ _ hleaf), branches_leaf_cons hleaf,
      ih hf, List.map_cons]
  | node key fields rest hfields ihfields ih =>
    rw [mapLeaves_node_cons hfields, branches_node_cons (mapLeaves_ne_nil hfields _),
      branches_node_cons hfields, ihfields fun names => hf (key :: names), ih hf, List.map_append,
      Value.under, Value.under, List.map_map, List.map_map]
    rfl

theorem mapLeaves_mapLeaves_value (g : List String → Value → Value) (value : Value) :
    (value.mapLeaves f).mapLeaves g = value.mapLeaves fun names leaf => g names (f names leaf) := by
  induction value using Value.induct generalizing f g with
  | leaf value hleaf =>
    rw [Value.mapLeaves_of_isLeaf hleaf, Value.mapLeaves_of_isLeaf (hf _ _ hleaf),
      Value.mapLeaves_of_isLeaf hleaf]
  | node fields hfields ih =>
    rw [mapLeaves_document hfields, mapLeaves_document (mapLeaves_ne_nil hfields f),
      mapLeaves_document hfields, mapLeaves_eq_map, mapLeaves_eq_map, mapLeaves_eq_map,
      List.map_map]
    refine congrArg _ (List.map_congr_left fun field hfield => congrArg (field.1, ·) ?_)
    exact ih field hfield (fun names => hf (field.1 :: names)) _

/-- One replacement after the other is one replacement. -/
theorem mapLeaves_mapLeaves (g : List String → Value → Value) (d : Document) :
    mapLeaves g (mapLeaves f d) = mapLeaves (fun names leaf => g names (f names leaf)) d := by
  rw [mapLeaves_eq_map, mapLeaves_eq_map, mapLeaves_eq_map, List.map_map]
  refine List.map_congr_left fun field _ => congrArg (field.1, ·) ?_
  exact mapLeaves_mapLeaves_value (fun names => hf (field.1 :: names)) _ field.2

theorem leaf?_mapLeaves (hfree : DotFree d) (hd : DistinctKeys d) (path : String) :
    leaf? (mapLeaves f d) path = (leaf? d path).map (f (Path.segments path)) := by
  have hflat : (branches (mapLeaves f d)).map flatBranch =
      (flatten d).map fun leaf => (leaf.1, f (Path.segments leaf.1) leaf.2) := by
    rw [branches_mapLeaves hf, flatten_eq_map_branches hfree hd, List.map_map, List.map_map]
    refine List.map_congr_left fun branch hbranch => ?_
    rw [Function.comp_apply, Function.comp_apply, segments_flatBranch hfree hbranch]
    rfl
  have hkeys : Dict.HasDistinctKeys
      ((flatten d).map fun leaf => (leaf.1, f (Path.segments leaf.1) leaf.2)) := by
    rw [Dict.HasDistinctKeys, Dict.keys, List.map_map]
    exact hasDistinctKeys_flatten d
  rw [leaf?, flatten_eq_ofList, hflat, Dict.ofList_eq_self hkeys]
  exact Dict.get?_map (fun path => f (Path.segments path)) (flatten d) path

end

end Document

end FieldGuard
