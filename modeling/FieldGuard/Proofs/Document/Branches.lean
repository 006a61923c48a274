import FieldGuard.Document.Flat
import FieldGuard.Proofs.Dict
import FieldGuard.Proofs.Path.Segments
import Mathlib.Data.List.Nodup

/-!
# Branches of documents

A branch of a document is a leaf with the field names that lead to it, from the outside to the
inside. Unlike the paths of a flat document, the names of a branch keep apart what a dot in a
name would run together.

* `Document.induct`: induction over a document, field by field, into the fields that have fields;
* `Document.mem_keys_flatten`, `Document.mem_flatten`: the leaves of a flat document are branches
  under their joined names;
* `Document.branch_unique`: where no name repeats, no branch goes on where another one ends;
* `Document.flatten_eq_map_branches`: without dots in names, flattening lists the branches.
-/

namespace FieldGuard

namespace Value

/-- Whether flattening stops at the value: it is no document, or one without fields. -/
def isLeaf : Value → Bool
  | document (_ :: _) => false
  | _ => true

/-- Branches, one field further out. -/
def under (key : String) (branches : List (List String × Value)) : List (List String × Value) :=
  branches.map fun branch => (key :: branch.1, branch.2)

mutual

/-- The leaves of a value, each with the names that lead to it. -/
def branches : Value → List (List String × Value)
  | document (field :: fields) => fieldBranches (field :: fields)
  | value => [([], value)]

/-- The leaves of some fields, each with the names that lead to it. -/
def fieldBranches : List (String × Value) → List (List String × Value)
  | [] => []
  | (key, value) :: rest => under key (branches value) ++ fieldBranches rest

end

theorem mem_under {key : String} {branches : List (List String × Value)}
    {branch : List String × Value} :
    branch ∈ under key branches ↔ ∃ inner ∈ branches, branch = (key :: inner.1, inner.2) := by
  simp [under, eq_comm]

theorem branches_of_isLeaf {value : Value} (h : value.isLeaf = true) :
    value.branches = [([], value)] := by
  unfold branches
  split
  · simp [isLeaf] at h
  · rfl

/-- A value is a leaf, or a document with fields. -/
theorem isLeaf_or_document (value : Value) :
    value.isLeaf = true ∨ ∃ fields, fields ≠ [] ∧ value = document fields := by
  unfold isLeaf
  split
  · exact .inr ⟨_, by simp, rfl⟩
  · exact .inl rfl

theorem leaves_of_isLeaf {value : Value} (h : value.isLeaf = true) (path : String) :
    leaves path value = [(path, value)] := by
  unfold leaves
  split <;> simp_all [isLeaf]

theorem leaves_document {fields : Document} (h : fields ≠ []) (path : String) :
    leaves path (.document fields) = fieldLeaves (some path) fields := by
  obtain ⟨field, rest, rfl⟩ := List.exists_cons_of_ne_nil h
  rfl

theorem isLeaf_of_not_isDocument {value : Value} (h : value.isDocument = false) :
    value.isLeaf = true := by
  cases value <;> simp_all [isDocument, isLeaf]

/-- The one document that is a leaf has no fields. -/
theorem eq_document_nil_of_isLeaf {value : Value} (hleaf : value.isLeaf = true)
    (hdoc : value.isDocument = true) : value = document [] := by
  cases value with
  | document fields =>
    cases fields with
    | nil => rfl
    | cons _ _ => cases hleaf
  | _ => cases hdoc

theorem dotFree_of_isLeaf {value : Value} (h : value.isLeaf = true) : value.DotFree := by
  cases value with
  | document fields =>
    cases fields with
    | nil => trivial
    | cons _ _ => cases h
  | _ => trivial

end Value

namespace Document

open Value (isLeaf under mem_under)

/-- The leaves of a document, each with the names that lead to it. -/
def branches (d : Document) : List (List String × Value) :=
  Value.fieldBranches d

@[simp] theorem branches_nil : branches [] = [] := rfl

theorem branches_cons (key : String) (value : Value) (rest : Document) :
    branches ((key, value) :: rest) = under key value.branches ++ branches rest := rfl

theorem branches_leaf_cons {key : String} {value : Value} (h : value.isLeaf = true)
    (rest : Document) : branches ((key, value) :: rest) = ([key], value) :: branches rest := by
  rw [branches_cons, Value.branches_of_isLeaf h]
  rfl

theorem branches_document {fields : Document} (h : fields ≠ []) :
    (Value.document fields).branches = branches fields := by
  obtain ⟨field, rest, rfl⟩ := List.exists_cons_of_ne_nil h
  rfl

theorem branches_node_cons {fields : Document} (h : fields ≠ []) (key : String) (rest : Document) :
    branches ((key, .document fields) :: rest) = under key (branches fields) ++ branches rest := by
  rw [branches_cons, branches_document h]

theorem branches_append (d e : Document) : branches (d ++ e) = branches d ++ branches e := by
  induction d with
  | nil => rfl
  | cons field rest ih =>
    rw [List.cons_append, show field :: (rest ++ e) = (field.1, field.2) :: (rest ++ e) from rfl,
      branches_cons, ih, ← List.append_assoc]
    rfl

/-- Induction over a document: field by field, and into the fields that have fields. -/
theorem induct {motive : Document → Prop} (nil : motive [])
    (leaf : ∀ key value rest, isLeaf value = true → motive rest → motive ((key, value) :: rest))
    (node : ∀ key fields rest, fields ≠ [] → motive fields → motive rest →
      motive ((key, .document fields) :: rest)) : ∀ d : Document, motive d
  | [] => nil
  | (key, value) :: rest =>
    match value with
    | .document (field :: fields) =>
      node key (field :: fields) rest (by simp)
        (induct nil leaf node (field :: fields)) (induct nil leaf node rest)
    | .document [] => leaf key (.document []) rest rfl (induct nil leaf node rest)
    | .null | .undefined | .boolean _ | .int32 _ | .int64 _ | .double _ | .string _ | .dateTime _
    | .array _ | .objectId _ | .binary _ _ | .timestamp _ _ | .regularExpression _ _
    | .decimal128 _ | .symbol _ | .code _ | .codeWithScope _ _ | .minKey | .maxKey =>
      leaf key _ rest rfl (induct nil leaf node rest)
termination_by d => sizeOf d

/-! ## The shape of branches -/

variable {d : Document} {branch other : List String × Value}

theorem branches_ne_nil (h : d ≠ []) : branches d ≠ [] := by
  induction d using induct with
  | nil => exact absurd rfl h
  | leaf key value rest hleaf _ => simp [branches_leaf_cons hleaf]
  | node key fields rest hfields ih _ => simp [branches_node_cons hfields, under, ih hfields]

theorem branches_value_ne_nil (value : Value) : value.branches ≠ [] := by
  rcases Value.isLeaf_or_document value with hleaf | ⟨fields, hfields, rfl⟩
  · simp [Value.branches_of_isLeaf hleaf]
  · rw [branches_document hfields]
    exact branches_ne_nil hfields

theorem names_ne_nil (h : branch ∈ branches d) : branch.1 ≠ [] := by
  induction d with
  | nil => simp at h
  | cons field rest ih =>
    rw [branches_cons] at h
    rcases List.mem_append.1 h with h | h
    · obtain ⟨inner, -, rfl⟩ := mem_under.1 h
      simp
    · exact ih h

/-- A branch of a value without names is the value itself. -/
theorem eq_of_nil_mem_branches {value leaf : Value} (h : ([], leaf) ∈ value.branches) :
    leaf = value := by
  rcases Value.isLeaf_or_document value with hleaf | ⟨fields, hfields, rfl⟩
  · rw [Value.branches_of_isLeaf hleaf, List.mem_singleton] at h
    exact (Prod.mk.inj h).2
  · rw [branches_document hfields] at h
    exact absurd rfl (names_ne_nil h)

theorem isLeaf_of_mem_branches (h : branch ∈ branches d) : branch.2.isLeaf = true := by
  induction d using induct generalizing branch with
  | nil => simp at h
  | leaf key value rest hleaf ih =>
    rw [branches_leaf_cons hleaf] at h
    rcases List.mem_cons.1 h with rfl | h
    · exact hleaf
    · exact ih h
  | node key fields rest hfields ihfields ih =>
    rw [branches_node_cons hfields] at h
    rcases List.mem_append.1 h with h | h
    · obtain ⟨inner, hinner, rfl⟩ := mem_under.1 h
      have hleaf := ihfields hinner
      exact hleaf
    · exact ih h

/-- The first name of a branch is one of the document's. -/
theorem exists_mem_of_mem_branches (h : branch ∈ branches d) :
    ∃ key value inner, (key, value) ∈ d ∧ inner ∈ value.branches ∧
      branch = (key :: inner.1, inner.2) := by
  induction d with
  | nil => simp at h
  | cons field rest ih =>
    rw [branches_cons] at h
    rcases List.mem_append.1 h with h | h
    · obtain ⟨inner, hinner, rfl⟩ := mem_under.1 h
      exact ⟨_, _, inner, List.mem_cons_self, hinner, rfl⟩
    · obtain ⟨key, value, inner, hmem, hinner, rfl⟩ := ih h
      exact ⟨key, value, inner, List.mem_cons_of_mem _ hmem, hinner, rfl⟩

theorem mem_branches_of_mem {key : String} {value : Value} (h : (key, value) ∈ d)
    {inner : List String × Value} (hinner : inner ∈ value.branches) :
    (key :: inner.1, inner.2) ∈ branches d := by
  induction d with
  | nil => simp at h
  | cons field rest ih =>
    rw [branches_cons]
    rcases List.mem_cons.1 h with rfl | h
    · exact List.mem_append_left _ (mem_under.2 ⟨inner, hinner, rfl⟩)
    · exact List.mem_append_right _ (ih h)

/-! ## Branches and paths -/

/-- A branch as an entry of a flat document: the leaf under its joined names. -/
def flatBranch (branch : List String × Value) : String × Value :=
  (Path.ofSegments branch.1, branch.2)

/-- The leaves of a container's fields are its branches under joined names, those of the container
in front. -/
theorem fieldLeaves_eq_map (container : Option String) (d : Document) :
    Value.fieldLeaves container d =
      (branches d).map fun branch =>
        (Path.ofSegments (container.toList ++ branch.1), branch.2) := by
  induction d using induct generalizing container with
  | nil => rfl
  | leaf key value rest hleaf ih =>
    rw [Value.fieldLeaves, Value.leaves_of_isLeaf hleaf, ih, branches_leaf_cons hleaf, List.map_cons]
    cases container <;> rfl
  | node key fields rest hfields ihfields ih =>
    rw [Value.fieldLeaves, Value.leaves_document hfields, ihfields, ih, branches_node_cons hfields,
      List.map_append]
    refine congrArg (· ++ _) ?_
    rw [under, List.map_map]
    refine List.map_congr_left fun branch hbranch => ?_
    -- The container's path and the name of the field join as the names themselves do.
    cases container with
    | none => rfl
    | some path =>
      have hne := names_ne_nil hbranch
      simp only [Option.toList_some, List.singleton_append, Function.comp_apply]
      rw [Path.ofSegments_cons hne, Path.ofSegments_cons (by simp), Path.ofSegments_cons hne,
        Path.join]
      simp only [String.append_assoc]

theorem flatten_eq_ofList (d : Document) :
    flatten d = Dict.ofList ((branches d).map flatBranch) :=
  congrArg Dict.ofList (fieldLeaves_eq_map none d)

theorem mem_keys_flatten {path : String} :
    path ∈ Dict.keys (flatten d) ↔ ∃ branch ∈ branches d, Path.ofSegments branch.1 = path := by
  rw [flatten_eq_ofList, Dict.mem_keys_ofList]
  simp [flatBranch]

theorem mem_flatten {leaf : String × Value} (h : leaf ∈ flatten d) :
    ∃ branch ∈ branches d, flatBranch branch = leaf := by
  rw [flatten_eq_ofList] at h
  exact List.mem_map.1 (Dict.mem_ofList h)

theorem isLeaf_of_mem_flatten {leaf : String × Value} (h : leaf ∈ flatten d) :
    leaf.2.isLeaf = true := by
  obtain ⟨branch, hbranch, rfl⟩ := mem_flatten h
  exact isLeaf_of_mem_branches hbranch

theorem hasDistinctKeys_flatten (d : Document) : Dict.HasDistinctKeys (flatten d) :=
  Dict.hasDistinctKeys_ofList _

/-! ## Names without dots -/

theorem dotFree_cons {key : String} {value : Value} {rest : Document} :
    DotFree ((key, value) :: rest) ↔ '.' ∉ key.toList ∧ value.DotFree ∧ DotFree rest := Iff.rfl

theorem dotFree_iff :
    DotFree d ↔ ∀ field ∈ d, '.' ∉ field.1.toList ∧ field.2.DotFree := by
  induction d with
  | nil => simp [DotFree, Value.DotFree, Value.FieldsDotFree]
  | cons field rest ih => rw [dotFree_cons, ih, List.forall_mem_cons, and_assoc]

theorem DotFree.dot_not_mem (hd : DotFree d) {key : String} (h : key ∈ Dict.keys d) :
    '.' ∉ key.toList := by
  obtain ⟨value, hmem⟩ := Dict.mem_keys.1 h
  exact (dotFree_iff.1 hd _ hmem).1

theorem dot_not_mem_of_mem_branches (hd : DotFree d) (h : branch ∈ branches d) :
    ∀ key ∈ branch.1, '.' ∉ key.toList := by
  induction d using induct generalizing branch with
  | nil => simp at h
  | leaf key value rest hleaf ih =>
    rw [branches_leaf_cons hleaf] at h
    rcases List.mem_cons.1 h with rfl | h
    · simpa using (dotFree_cons.1 hd).1
    · exact ih (dotFree_cons.1 hd).2.2 h
  | node key fields rest hfields ihfields ih =>
    obtain ⟨hkey, hvalue, hrest⟩ := dotFree_cons.1 hd
    rw [branches_node_cons hfields] at h
    rcases List.mem_append.1 h with h | h
    · obtain ⟨inner, hinner, rfl⟩ := mem_under.1 h
      exact List.forall_mem_cons.2 ⟨hkey, ihfields hvalue hinner⟩
    · exact ih hrest h

/-- The path of a branch is cut into the names of the branch. -/
theorem segments_names (hd : DotFree d) {names : List String} {value : Value}
    (h : (names, value) ∈ branches d) : Path.segments (Path.ofSegments names) = names :=
  Path.segments_ofSegments (names_ne_nil h) (dot_not_mem_of_mem_branches hd h)

theorem segments_flatBranch (hd : DotFree d) (h : branch ∈ branches d) :
    Path.segments (flatBranch branch).1 = branch.1 :=
  segments_names hd h

/-! ## Names that do not repeat -/

theorem distinctKeys_cons {key : String} {value : Value} {rest : Document} :
    DistinctKeys ((key, value) :: rest) ↔
      key ∉ Dict.keys rest ∧ value.DistinctKeys ∧ DistinctKeys rest := by
  simp only [DistinctKeys, Value.DistinctKeys, Value.FieldsDistinctKeys, List.map_cons,
    List.nodup_cons]
  exact ⟨fun h => ⟨h.1.1, h.2.1, h.1.2, h.2.2⟩, fun h => ⟨⟨h.1, h.2.2.1⟩, h.2.1, h.2.2.2⟩⟩

theorem DistinctKeys.keys (h : DistinctKeys d) : Dict.HasDistinctKeys d := h.1

/-- Where no name repeats, no branch goes on where another one ends. -/
theorem branch_unique (hd : DistinctKeys d) (h : branch ∈ branches d) (ho : other ∈ branches d)
    (hstart : branch.1 <+: other.1) : branch = other := by
  induction d using induct generalizing branch other with
  | nil => simp at h
  | leaf key value rest hleaf ih =>
    obtain ⟨hkey, -, hrest⟩ := distinctKeys_cons.1 hd
    rw [branches_leaf_cons hleaf] at h ho
    rcases List.mem_cons.1 h with rfl | h <;> rcases List.mem_cons.1 ho with rfl | ho
    · rfl
    · obtain ⟨k, v, inner, hmem, -, rfl⟩ := exists_mem_of_mem_branches ho
      rw [(List.cons_prefix_cons.1 hstart).1] at hkey
      exact absurd (Dict.mem_keys_of_mem hmem) hkey
    · obtain ⟨k, v, inner, hmem, -, rfl⟩ := exists_mem_of_mem_branches h
      rw [← (List.cons_prefix_cons.1 hstart).1] at hkey
      exact absurd (Dict.mem_keys_of_mem hmem) hkey
    · exact ih hrest h ho hstart
  | node key fields rest hfields ihfields ih =>
    obtain ⟨hkey, hvalue, hrest⟩ := distinctKeys_cons.1 hd
    rw [branches_node_cons hfields] at h ho
    rcases List.mem_append.1 h with h | h <;> rcases List.mem_append.1 ho with ho | ho
    · obtain ⟨inner, hinner, rfl⟩ := mem_under.1 h
      obtain ⟨inner', hinner', rfl⟩ := mem_under.1 ho
      rw [ihfields hvalue hinner hinner' (List.cons_prefix_cons.1 hstart).2]
    · obtain ⟨inner, -, rfl⟩ := mem_under.1 h
      obtain ⟨k, v, inner', hmem, -, rfl⟩ := exists_mem_of_mem_branches ho
      rw [(List.cons_prefix_cons.1 hstart).1] at hkey
      exact absurd (Dict.mem_keys_of_mem hmem) hkey
    · obtain ⟨k, v, inner, hmem, -, rfl⟩ := exists_mem_of_mem_branches h
      obtain ⟨inner', -, rfl⟩ := mem_under.1 ho
      rw [← (List.cons_prefix_cons.1 hstart).1] at hkey
      exact absurd (Dict.mem_keys_of_mem hmem) hkey
    · exact ih hrest h ho hstart

theorem nodup_names (hd : DistinctKeys d) : ((branches d).map Prod.fst).Nodup := by
  induction d using induct with
  | nil => exact List.nodup_nil
  | leaf key value rest hleaf ih =>
    obtain ⟨hkey, -, hrest⟩ := distinctKeys_cons.1 hd
    rw [branches_leaf_cons hleaf, List.map_cons, List.nodup_cons]
    refine ⟨fun hmem => ?_, ih hrest⟩
    obtain ⟨branch, hbranch, hnames⟩ := List.mem_map.1 hmem
    obtain ⟨k, v, inner, hfield, -, rfl⟩ := exists_mem_of_mem_branches hbranch
    rw [← (List.cons.inj hnames).1] at hkey
    exact hkey (Dict.mem_keys_of_mem hfield)
  | node key fields rest hfields ihfields ih =>
    obtain ⟨hkey, hvalue, hrest⟩ := distinctKeys_cons.1 hd
    rw [branches_node_cons hfields, List.map_append, List.nodup_append]
    refine ⟨?_, ih hrest, ?_⟩
    · rw [under, List.map_map]
      have := (ihfields hvalue).map (List.cons_injective (a := key))
      rwa [List.map_map] at this
    · rintro names hnames names' hnames' rfl
      obtain ⟨branch, hbranch, rfl⟩ := List.mem_map.1 hnames
      obtain ⟨inner, -, rfl⟩ := mem_under.1 hbranch
      obtain ⟨other, hother, hsame⟩ := List.mem_map.1 hnames'
      obtain ⟨k, v, inner', hfield, -, rfl⟩ := exists_mem_of_mem_branches hother
      rw [← (List.cons.inj hsame).1] at hkey
      exact hkey (Dict.mem_keys_of_mem hfield)

/-- Without dots in names and without repeated names, flattening lists the branches. -/
theorem flatten_eq_map_branches (hfree : DotFree d) (hd : DistinctKeys d) :
    flatten d = (branches d).map flatBranch := by
  rw [flatten_eq_ofList, Dict.ofList_eq_self]
  -- The paths are distinct because their segments are the names.
  refine List.Nodup.of_map Path.segments ?_
  have hnames : (branches d).map ((Path.segments ∘ Prod.fst) ∘ flatBranch) =
      (branches d).map Prod.fst :=
    List.map_congr_left fun branch hbranch => segments_flatBranch hfree hbranch
  rw [Dict.keys, List.map_map, List.map_map, hnames]
  exact nodup_names hd

theorem mem_flatten_iff (hfree : DotFree d) (hd : DistinctKeys d) {path : String} {value : Value} :
    (path, value) ∈ flatten d ↔ (Path.segments path, value) ∈ branches d := by
  rw [flatten_eq_map_branches hfree hd, List.mem_map]
  constructor
  · rintro ⟨branch, hbranch, hflat⟩
    obtain ⟨rfl, rfl⟩ := Prod.mk.inj hflat
    rwa [segments_names hfree hbranch]
  · intro hbranch
    exact ⟨_, hbranch, by rw [flatBranch, Path.ofSegments_segments]⟩

end Document

end FieldGuard
