import FieldGuard.Document.Projection
import FieldGuard.Proofs.Document.Branches

/-!
# Building documents from leaves

What writing leaves into a document does to its branches:

* `mem_branches_assignAt`: a branch of the result was there or is the one written;
* `mem_branches_assignAt_of`: a branch stays unless it starts with the written one or the
  other way round;
* `mem_flatten_nest`, `mem_flatten_redact`: building a document from leaves, or redacting one,
  brings about no leaf;
* `IsFlat.mem_branches_nest_iff`: of leaves that do not lie below one another, none is lost;
* `nest_flatten`: without dots in names, flattening loses nothing.
-/

namespace FieldGuard.Document

open Value (isLeaf under mem_under)

variable {d : Document} {branch : List String × Value}

/-! ## Writing one leaf -/

theorem assignAt_cons {rest : List String} (h : rest ≠ []) (d : Document) (key : String)
    (value : Value) : assignAt d (key :: rest) value =
      Dict.insert d key (.document (assignAt (child d key) rest value)) := by
  obtain ⟨next, more, rfl⟩ := List.exists_cons_of_ne_nil h
  rfl

theorem assignAt_ne_nil {names : List String} (h : names ≠ []) (d : Document) (value : Value) :
    assignAt d names value ≠ [] := by
  obtain ⟨key, rest, rfl⟩ := List.exists_cons_of_ne_nil h
  have hinsert : ∀ value, Dict.insert d key value ≠ [] := fun value e => by
    have := Dict.mem_insert_self d key value
    simp [e] at this
  by_cases hr : rest = []
  · subst hr
    exact hinsert _
  · rw [assignAt_cons hr]
    exact hinsert _

theorem child_of_get? {key : String} {fields : Document}
    (h : Dict.get? d key = some (.document fields)) : child d key = fields := by
  rw [child, h]

theorem child_of_not_mem {key : String} (h : key ∉ Dict.keys d) : child d key = [] := by
  rw [child, Dict.get?_eq_none_iff.2 h]

/-- A branch of a document inside is one of the whole. -/
theorem mem_branches_child {key : String} (h : branch ∈ branches (child d key)) :
    (key :: branch.1, branch.2) ∈ branches d := by
  unfold child at h
  split at h
  · rename_i fields hget
    have hne : fields ≠ [] := fun e => by simp [e] at h
    exact mem_branches_of_mem (Dict.mem_of_get? hget) (branches_document hne ▸ h)
  · simp at h

theorem mem_branches_insert {key : String} {value : Value}
    (h : branch ∈ branches (Dict.insert d key value)) :
    branch ∈ under key value.branches ∨ branch ∈ branches d := by
  obtain ⟨k, v, inner, hmem, hinner, rfl⟩ := exists_mem_of_mem_branches h
  rcases Dict.mem_insert hmem with e | hmem
  · obtain ⟨rfl, rfl⟩ := Prod.mk.inj e
    exact .inl (mem_under.2 ⟨inner, hinner, rfl⟩)
  · exact .inr (mem_branches_of_mem hmem hinner)

/-- A branch that is there after writing a leaf was there before, or is the one written. -/
theorem mem_branches_assignAt {names : List String} {value : Value} (hleaf : value.isLeaf = true)
    (h : branch ∈ branches (assignAt d names value)) :
    branch = (names, value) ∨ branch ∈ branches d := by
  induction names generalizing d branch with
  | nil => exact .inr h
  | cons key rest ih =>
    by_cases hr : rest = []
    · subst hr
      refine (mem_branches_insert h).imp_left fun hu => ?_
      obtain ⟨inner, hinner, rfl⟩ := mem_under.1 hu
      rw [Value.branches_of_isLeaf hleaf, List.mem_singleton] at hinner
      rw [hinner]
    · rw [assignAt_cons hr] at h
      rcases mem_branches_insert h with hu | h
      · obtain ⟨inner, hinner, rfl⟩ := mem_under.1 hu
        rw [branches_document (assignAt_ne_nil hr _ _)] at hinner
        rcases ih hinner with rfl | hinner
        · exact .inl rfl
        · exact .inr (mem_branches_child hinner)
      · exact .inr h

theorem mem_branches_assignAt_self {names : List String} (hne : names ≠ []) (d : Document)
    {value : Value} (hleaf : value.isLeaf = true) :
    (names, value) ∈ branches (assignAt d names value) := by
  induction names generalizing d with
  | nil => exact absurd rfl hne
  | cons key rest ih =>
    by_cases hr : rest = []
    · subst hr
      have hinner : (([], value) : List String × Value) ∈ value.branches := by
        rw [Value.branches_of_isLeaf hleaf]
        exact List.mem_singleton_self _
      exact mem_branches_of_mem (Dict.mem_insert_self d key value) hinner
    · rw [assignAt_cons hr]
      have hinner := ih hr (child d key)
      rw [← branches_document (assignAt_ne_nil hr _ _)] at hinner
      exact mem_branches_of_mem (Dict.mem_insert_self d key _) hinner

/-- A branch stays unless it starts with the one written, or the other way round. -/
theorem mem_branches_assignAt_of {names : List String} {value : Value} (h : branch ∈ branches d)
    (hb : ¬ branch.1 <+: names) (hn : ¬ names <+: branch.1) :
    branch ∈ branches (assignAt d names value) := by
  induction names generalizing d branch with
  | nil => exact h
  | cons key rest ih =>
    obtain ⟨k, v, inner, hmem, hinner, rfl⟩ := exists_mem_of_mem_branches h
    have hr : k = key → rest ≠ [] := fun hk e => hn (by simp [hk, e])
    by_cases hrest : rest = []
    · rw [hrest]
      have hne : k ≠ key := fun hk => hr hk hrest
      exact mem_branches_of_mem (Dict.mem_insert_of_ne _ hmem hne) hinner
    rw [assignAt_cons hrest]
    rcases Dict.mem_insert_of_mem key (.document (assignAt (child d key) rest value)) hmem with
      hstay | ⟨hk, hget⟩
    · exact mem_branches_of_mem hstay hinner
    -- The branch goes through the document that is written into.
    simp only at hk hget
    subst hk
    rcases Value.isLeaf_or_document v with hleaf | ⟨fields, hne, rfl⟩
    · rw [Value.branches_of_isLeaf hleaf, List.mem_singleton] at hinner
      exact absurd (by simp [hinner]) hb
    · rw [branches_document hne] at hinner
      rw [child_of_get? hget]
      refine mem_branches_of_mem (Dict.mem_insert_self ..) ?_
      rw [branches_document (assignAt_ne_nil hrest _ _)]
      exact ih hinner (fun hp => hb (List.cons_prefix_cons.2 ⟨rfl, hp⟩))
        (fun hp => hn (List.cons_prefix_cons.2 ⟨rfl, hp⟩))

/-! ## Writing leaves one after the other -/

/-- Writes leaves under their names, one after the other. -/
def assignAll (d : Document) (branches : List (List String × Value)) : Document :=
  branches.foldl (fun d branch => assignAt d branch.1 branch.2) d

theorem assignAll_cons (d : Document) (names : List String) (value : Value)
    (written : List (List String × Value)) :
    assignAll d ((names, value) :: written) = assignAll (assignAt d names value) written := rfl

theorem assignAll_append (d : Document) (front back : List (List String × Value)) :
    assignAll d (front ++ back) = assignAll (assignAll d front) back :=
  List.foldl_append

/-- Writing leaves at their paths is writing them under the segments of these. -/
theorem foldl_assign (flat d : Document) :
    flat.foldl (fun d leaf => assign d leaf.1 leaf.2) d =
      assignAll d (flat.map fun leaf => (Path.segments leaf.1, leaf.2)) := by
  rw [assignAll, List.foldl_map]
  rfl

theorem nest_eq_assignAll (flat : Document) :
    nest flat = assignAll [] (flat.map fun leaf => (Path.segments leaf.1, leaf.2)) :=
  foldl_assign flat []

/-- Leaves below one name are written into the document there. -/
theorem assignAll_under {written : List (List String × Value)} (h : written ≠ [])
    (hnames : ∀ w ∈ written, w.1 ≠ []) (d : Document) (key : String) :
    assignAll d (under key written) =
      Dict.insert d key (.document (assignAll (child d key) written)) := by
  induction written generalizing d with
  | nil => exact absurd rfl h
  | cons first rest ih =>
    obtain ⟨hfirst, hrest⟩ := List.forall_mem_cons.1 hnames
    have hstep : assignAll d (under key (first :: rest)) =
        assignAll (Dict.insert d key (.document (assignAt (child d key) first.1 first.2)))
          (under key rest) := by
      rw [← assignAt_cons hfirst]
      rfl
    by_cases hnil : rest = []
    · rw [hstep, hnil]
      rfl
    · -- What the first leaf leaves under the name is what the others are written into.
      rw [hstep, ih hnil hrest, Dict.insert_insert, child_of_get? (Dict.get?_insert_self _ _ _)]
      rfl

theorem mem_branches_assignAll {written : List (List String × Value)}
    (hleaf : ∀ w ∈ written, isLeaf w.2 = true) (h : branch ∈ branches (assignAll d written)) :
    branch ∈ written ∨ branch ∈ branches d := by
  induction written generalizing d with
  | nil => exact .inr h
  | cons w written ih =>
    rcases ih (fun w hw => hleaf w (List.mem_cons_of_mem _ hw)) h with h | h
    · exact .inl (List.mem_cons_of_mem _ h)
    · rcases mem_branches_assignAt (hleaf w List.mem_cons_self) h with rfl | h
      · exact .inl List.mem_cons_self
      · exact .inr h

/-- Leaves of which none starts with another one are all there in the end. -/
theorem mem_branches_assignAll_of_pairwise {written : List (List String × Value)}
    (hne : ∀ w ∈ written, w.1 ≠ []) (hleaf : ∀ w ∈ written, isLeaf w.2 = true)
    (hp : written.Pairwise fun w w' => ¬ w.1 <+: w'.1 ∧ ¬ w'.1 <+: w.1) (h : branch ∈ written) :
    branch ∈ branches (assignAll d written) := by
  have hkeep : ∀ (written : List (List String × Value)) (d : Document), branch ∈ branches d →
      (∀ w ∈ written, ¬ branch.1 <+: w.1 ∧ ¬ w.1 <+: branch.1) →
      branch ∈ branches (assignAll d written) := by
    intro written
    induction written with
    | nil => exact fun d hd _ => hd
    | cons w written ih =>
      intro d hd hw
      obtain ⟨hb, hn⟩ := hw w List.mem_cons_self
      exact ih _ (mem_branches_assignAt_of hd hb hn) fun w hmem =>
        hw w (List.mem_cons_of_mem _ hmem)
  induction written generalizing d with
  | nil => simp at h
  | cons w written ih =>
    obtain ⟨hfirst, hrest⟩ := List.pairwise_cons.1 hp
    rcases List.mem_cons.1 h with rfl | h
    · have hself := mem_branches_assignAt_self (hne _ List.mem_cons_self) d
        (hleaf _ List.mem_cons_self)
      exact hkeep written (assignAt d branch.1 branch.2) hself hfirst
    · exact ih (fun w hw => hne w (List.mem_cons_of_mem _ hw))
        (fun w hw => hleaf w (List.mem_cons_of_mem _ hw)) hrest h

/-! ## Documents of leaves -/

theorem mem_branches_nest {flat : Document} (hleaf : ∀ leaf ∈ flat, isLeaf leaf.2 = true)
    (h : branch ∈ branches (nest flat)) :
    ∃ leaf ∈ flat, branch = (Path.segments leaf.1, leaf.2) := by
  rw [nest_eq_assignAll] at h
  have hw := mem_branches_assignAll (fun w hw => by
    obtain ⟨leaf, hmem, rfl⟩ := List.mem_map.1 hw
    exact hleaf leaf hmem) h
  obtain ⟨leaf, hmem, rfl⟩ := List.mem_map.1 (hw.resolve_right (by simp))
  exact ⟨leaf, hmem, rfl⟩

/-- Leaves under paths of which none lies below another one: what flattening gives. -/
structure IsFlat (flat : Document) : Prop where
  leaves : ∀ leaf ∈ flat, isLeaf leaf.2 = true
  outermost : ∀ leaf ∈ flat, ∀ other ∈ flat, Path.isWithin leaf.1 other.1 = true → leaf.1 = other.1

/-- Of leaves that do not lie below one another, none is lost. -/
theorem IsFlat.mem_branches_nest_iff {flat : Document} (h : IsFlat flat)
    (hkeys : Dict.HasDistinctKeys flat) :
    branch ∈ branches (nest flat) ↔ ∃ leaf ∈ flat, branch = (Path.segments leaf.1, leaf.2) := by
  refine ⟨mem_branches_nest h.leaves, ?_⟩
  rintro ⟨leaf, hleaf, rfl⟩
  have happart : ∀ a ∈ flat, ∀ b ∈ flat, a.1 ≠ b.1 →
      ¬ Path.segments a.1 <+: Path.segments b.1 := fun a ha b hb hne hstart =>
    hne (h.outermost b hb a ha (Path.isWithin_iff.2 hstart)).symm
  rw [nest_eq_assignAll]
  refine mem_branches_assignAll_of_pairwise ?_ ?_ ?_ (List.mem_map.2 ⟨leaf, hleaf, rfl⟩)
  · intro written hwritten
    obtain ⟨leaf, -, rfl⟩ := List.mem_map.1 hwritten
    exact Path.segments_ne_nil _
  · intro written hwritten
    obtain ⟨leaf, hleaf, rfl⟩ := List.mem_map.1 hwritten
    exact h.leaves leaf hleaf
  · rw [List.pairwise_map]
    exact (List.pairwise_map.1 hkeys).imp_of_mem fun {a b} ha hb hne =>
      ⟨happart a ha b hb hne, happart b hb a ha hne.symm⟩

theorem nest_ne_nil {flat : Document} (h : flat ≠ []) : nest flat ≠ [] := by
  obtain rfl | ⟨front, last, rfl⟩ := List.eq_nil_or_concat flat
  · exact absurd rfl h
  · rw [nest, List.concat_eq_append, List.foldl_append]
    exact assignAt_ne_nil (Path.segments_ne_nil _) _ _

/-- Building a document from leaves brings about no leaf. -/
theorem mem_flatten_nest {flat : Document} (hleaf : ∀ leaf ∈ flat, isLeaf leaf.2 = true)
    {leaf : String × Value} (h : leaf ∈ flatten (nest flat)) : leaf ∈ flat := by
  obtain ⟨branch, hbranch, rfl⟩ := mem_flatten h
  obtain ⟨leaf, hmem, rfl⟩ := mem_branches_nest hleaf hbranch
  rwa [flatBranch, Path.ofSegments_segments]

theorem projectFlat_subset (flat : Document) (paths : List String) :
    projectFlat flat paths ⊆ flat := by
  unfold projectFlat
  split
  · exact List.Subset.refl _
  · exact List.filter_subset_self _

/-- A projection has leaves of the document only. -/
theorem mem_flatten_project {d : Document} {paths : List String} {leaf : String × Value}
    (h : leaf ∈ flatten (project d paths)) : leaf ∈ flatten d := by
  unfold project at h
  split at h
  · exact h
  · have hsubset := projectFlat_subset (flatten d) paths
    exact hsubset (mem_flatten_nest (fun leaf hleaf => isLeaf_of_mem_flatten (hsubset hleaf)) h)

theorem mem_withoutPaths {flat : Document} {paths : List String} {leaf : String × Value} :
    leaf ∈ withoutPaths flat paths ↔ leaf ∈ flat ∧ Path.isWithinAny leaf.1 paths = false := by
  simp [withoutPaths]

/-- A leaf of a redacted document is one of the document outside of the paths. -/
theorem mem_flatten_redact {paths : List String} {leaf : String × Value}
    (h : leaf ∈ flatten (redact d paths)) :
    leaf ∈ flatten d ∧ Path.isWithinAny leaf.1 paths = false := by
  unfold redact at h
  split at h
  · rename_i hpaths
    rw [List.isEmpty_iff] at hpaths
    exact ⟨h, by simp [hpaths, Path.isWithinAny]⟩
  · refine mem_withoutPaths.1 (mem_flatten_nest (fun leaf hmem => ?_) h)
    exact isLeaf_of_mem_flatten (mem_withoutPaths.1 hmem).1

/-! ## Flattening loses nothing -/

/-- Writing the branches of a document one after the other appends the document. -/
theorem assignAll_branches (hd : DistinctKeys d) :
    ∀ front : Document, (∀ key ∈ Dict.keys d, key ∉ Dict.keys front) →
      assignAll front (branches d) = front ++ d := by
  induction d using induct with
  | nil => exact fun front _ => (List.append_nil front).symm
  | leaf key value rest hleaf ih =>
    intro front hfront
    obtain ⟨hkey, -, hrest⟩ := distinctKeys_cons.1 hd
    have hnew : ∀ k ∈ Dict.keys rest, k ∉ Dict.keys (front ++ [(key, value)]) := fun k hk => by
      have hne : k ≠ key := fun e => hkey (e ▸ hk)
      have := hfront k (List.mem_cons_of_mem _ hk)
      simp_all [Dict.keys]
    rw [branches_leaf_cons hleaf, assignAll_cons, assignAt,
      Dict.insert_of_not_mem (hfront key List.mem_cons_self), ih hrest _ hnew, List.append_assoc,
      List.singleton_append]
  | node key fields rest hfields ihfields ih =>
    intro front hfront
    obtain ⟨hkey, hvalue, hrest⟩ := distinctKeys_cons.1 hd
    have hnew : ∀ k ∈ Dict.keys rest, k ∉ Dict.keys (front ++ [(key, Value.document fields)]) :=
      fun k hk => by
        have hne : k ≠ key := fun e => hkey (e ▸ hk)
        have := hfront k (List.mem_cons_of_mem _ hk)
        simp_all [Dict.keys]
    have hkeyFront := hfront key List.mem_cons_self
    have hinner : assignAll front (under key (branches fields)) =
        front ++ [(key, .document fields)] := by
      rw [assignAll_under (branches_ne_nil hfields) (fun _ => names_ne_nil),
        child_of_not_mem hkeyFront, ihfields hvalue [] (by simp [Dict.keys]), List.nil_append,
        Dict.insert_of_not_mem hkeyFront]
    rw [branches_node_cons hfields, assignAll_append, hinner, ih hrest _ hnew, List.append_assoc,
      List.singleton_append]

theorem map_segments_flatBranch (hfree : DotFree d) :
    ((branches d).map flatBranch).map (fun leaf => (Path.segments leaf.1, leaf.2)) =
      branches d := by
  rw [List.map_map]
  refine (List.map_congr_left fun branch hbranch => ?_).trans (List.map_id _)
  exact Prod.ext (segments_flatBranch hfree hbranch) rfl

/-- Without dots in names and without repeated names, a document is built again from its
leaves. -/
theorem nest_map_flatBranch (hfree : DotFree d) (hd : DistinctKeys d) :
    nest ((branches d).map flatBranch) = d := by
  rw [nest_eq_assignAll, map_segments_flatBranch hfree,
    assignAll_branches hd [] (by simp [Dict.keys]), List.nil_append]

theorem nest_flatten (hfree : DotFree d) (hd : DistinctKeys d) : nest (flatten d) = d := by
  rw [flatten_eq_map_branches hfree hd, nest_map_flatBranch hfree hd]

end FieldGuard.Document
