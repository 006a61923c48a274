import FieldGuard.Proofs.Document.Branches

/-!
# Walking through documents

A walk takes the field names of a path one by one, each in the document that the names before it
lead to.

* `Value.walk?_append`: a walk goes on where its first part ends;
* `Document.mem_branches_iff_walk?`: the branches are the walks that end at a leaf;
* `Document.leaf?_eq_walk?`: so the leaf at a path is where the walk along its segments ends;
* `Document.lookup?_eq_walk?`: where no name has a dot, looking up a path walks along its segments.
-/

namespace FieldGuard

namespace Value

/-- What the names lead to, through documents. -/
def walk? (value : Value) : List String → Option Value
  | [] => some value
  | key :: rest => (value.asDocument?.bind (Dict.get? · key)).bind fun inner => inner.walk? rest

@[simp] theorem walk?_nil (value : Value) : value.walk? [] = some value := rfl

/-- A walk goes on where its first part ends. -/
theorem walk?_append (value : Value) (front back : List String) :
    value.walk? (front ++ back) = (value.walk? front).bind fun inner => inner.walk? back := by
  induction front generalizing value with
  | nil => rfl
  | cons key front ih =>
    rw [List.cons_append, walk?, walk?]
    cases value.asDocument?.bind (Dict.get? · key) with
    | none => rfl
    | some inner => exact ih inner

/-- Only a document is walked through. -/
theorem walk?_of_isDocument_eq_false {value : Value} (h : value.isDocument = false)
    {names : List String} (hne : names ≠ []) : value.walk? names = none := by
  obtain ⟨key, rest, rfl⟩ := List.exists_cons_of_ne_nil hne
  cases value with
  | document fields => cases h
  | _ => rfl

/-- A walk that goes on does so in a document. -/
theorem exists_document_of_walk? {value inner : Value} {names : List String} (hne : names ≠ [])
    (h : value.walk? names = some inner) : ∃ fields, value = document fields := by
  cases hdoc : value.isDocument with
  | false => simp [walk?_of_isDocument_eq_false hdoc hne] at h
  | true =>
    cases value with
    | document fields => exact ⟨fields, rfl⟩
    | _ => cases hdoc

/-- What passes from documents to their fields passes to all that names lead to. -/
theorem of_walk? {motive : Value → Prop}
    (field : ∀ fields key inner, motive (.document fields) → Dict.get? fields key = some inner →
      motive inner)
    {value inner : Value} (h : motive value) {names : List String}
    (hwalk : value.walk? names = some inner) : motive inner := by
  induction names generalizing value with
  | nil =>
    obtain rfl := Option.some.inj hwalk
    exact h
  | cons key names ih =>
    rw [walk?, Option.bind_eq_some_iff] at hwalk
    obtain ⟨next, hnext, hwalk⟩ := hwalk
    cases value with
    | document fields => exact ih (field fields key next h hnext) hwalk
    | _ => cases hnext

end Value

namespace Document

variable {d : Document}

/-- What the names lead to in a document. -/
def walk? (d : Document) (names : List String) : Option Value :=
  (Value.document d).walk? names

theorem walk?_cons (d : Document) (key : String) (rest : List String) :
    walk? d (key :: rest) = (Dict.get? d key).bind fun inner => inner.walk? rest := rfl

theorem walk?_singleton (d : Document) (key : String) : walk? d [key] = Dict.get? d key := by
  rw [walk?_cons]
  cases Dict.get? d key <;> rfl

/-- A walk outside of a field does not see what is written to it. -/
theorem walk?_insert {key : String} (hkey : '.' ∉ key.toList) (value : Value) {path : String}
    (houtside : Path.isWithin path key = false) :
    walk? (Dict.insert d key value) (Path.segments path) = walk? d (Path.segments path) := by
  obtain ⟨first, more, hsegments⟩ := List.exists_cons_of_ne_nil (Path.segments_ne_nil path)
  have hfirst : first ≠ key := by
    rintro rfl
    have hwithin : Path.isWithin path first = true := by
      rw [Path.isWithin_iff, Path.segments_of_dot_not_mem hkey, hsegments]
      exact List.prefix_append [first] more
    rw [houtside] at hwithin
    cases hwithin
  rw [hsegments, walk?_cons, walk?_cons, Dict.get?_insert_of_ne _ _ hfirst]

/-! ## Walks and branches -/

theorem walk?_of_mem_branches (hd : DistinctKeys d) {branch : List String × Value}
    (h : branch ∈ branches d) : walk? d branch.1 = some branch.2 := by
  induction d using induct generalizing branch with
  | nil => simp at h
  | leaf key value rest hleaf ih =>
    obtain ⟨hkey, -, hrest⟩ := distinctKeys_cons.1 hd
    rw [branches_leaf_cons hleaf] at h
    rcases List.mem_cons.1 h with rfl | h
    · rw [walk?_singleton, Dict.get?_cons, if_pos rfl]
    · obtain ⟨k, v, inner, hmem, -, rfl⟩ := exists_mem_of_mem_branches h
      have hne : key ≠ k := fun e => hkey (e ▸ Dict.mem_keys_of_mem hmem)
      have hwalk := ih hrest h
      rwa [walk?_cons, Dict.get?_cons, if_neg hne, ← walk?_cons]
  | node key fields rest hfields ihfields ih =>
    obtain ⟨hkey, hvalue, hrest⟩ := distinctKeys_cons.1 hd
    rw [branches_node_cons hfields] at h
    rcases List.mem_append.1 h with h | h
    · obtain ⟨inner, hinner, rfl⟩ := Value.mem_under.1 h
      rw [walk?_cons, Dict.get?_cons, if_pos rfl]
      exact ihfields hvalue hinner
    · obtain ⟨k, v, inner, hmem, -, rfl⟩ := exists_mem_of_mem_branches h
      have hne : key ≠ k := fun e => hkey (e ▸ Dict.mem_keys_of_mem hmem)
      have hwalk := ih hrest h
      rwa [walk?_cons, Dict.get?_cons, if_neg hne, ← walk?_cons]

theorem mem_branches_of_walk? {names : List String} (hne : names ≠ []) {value : Value}
    (hleaf : value.isLeaf = true) (h : walk? d names = some value) :
    (names, value) ∈ branches d := by
  induction names generalizing d with
  | nil => exact absurd rfl hne
  | cons key rest ih =>
    rw [walk?_cons, Option.bind_eq_some_iff] at h
    obtain ⟨inner, hget, hwalk⟩ := h
    by_cases hr : rest = []
    · subst hr
      obtain rfl := Option.some.inj hwalk
      have hinner : (([], inner) : List String × Value) ∈ inner.branches := by
        rw [Value.branches_of_isLeaf hleaf]
        exact List.mem_singleton_self _
      exact mem_branches_of_mem (Dict.mem_of_get? hget) hinner
    · -- The walk goes on, so it goes on in a document, which has fields.
      obtain ⟨fields, rfl⟩ := Value.exists_document_of_walk? hr hwalk
      have hbranch := ih hr hwalk
      have hfields : fields ≠ [] := fun e => by simp [e] at hbranch
      rw [← branches_document hfields] at hbranch
      exact mem_branches_of_mem (Dict.mem_of_get? hget) hbranch

/-- Where no branch ends at a leaf, no walk does. -/
theorem walk?_ne_of_branches {names : List String} (hne : names ≠ []) {value : Value}
    (hleaf : value.isLeaf = true) (h : ∀ branch ∈ branches d, branch.2 ≠ value) :
    walk? d names ≠ some value :=
  fun hwalk => h _ (mem_branches_of_walk? hne hleaf hwalk) rfl

/-- The branches are the walks that end at a leaf. -/
theorem mem_branches_iff_walk? (hd : DistinctKeys d) {names : List String} {value : Value} :
    (names, value) ∈ branches d ↔ names ≠ [] ∧ walk? d names = some value ∧ value.isLeaf = true :=
  ⟨fun h => ⟨names_ne_nil h, walk?_of_mem_branches hd h, isLeaf_of_mem_branches h⟩,
    fun h => mem_branches_of_walk? h.1 h.2.2 h.2.1⟩

/-- On the way to a leaf there are documents. -/
theorem walk?_of_branch_append (hd : DistinctKeys d) {front back : List String} {value : Value}
    (h : (front ++ back, value) ∈ branches d) (hback : back ≠ []) :
    ∃ fields, walk? d front = some (.document fields) := by
  have hwalk := walk?_of_mem_branches hd h
  rw [walk?, Value.walk?_append, Option.bind_eq_some_iff] at hwalk
  obtain ⟨inner, hfront, hinner⟩ := hwalk
  obtain ⟨fields, rfl⟩ := Value.exists_document_of_walk? hback hinner
  exact ⟨fields, hfront⟩

/-- The leaf of a document at a path. -/
def leaf? (d : Document) (path : String) : Option Value :=
  Dict.get? (flatten d) path

theorem leaf?_eq_some_iff {path : String} {value : Value} :
    leaf? d path = some value ↔ (path, value) ∈ flatten d :=
  Dict.get?_eq_some_iff_mem (hasDistinctKeys_flatten d)

/-- The leaf at a path is what the segments of the path lead to. -/
theorem leaf?_eq_walk? (hfree : DotFree d) (hd : DistinctKeys d) (path : String) :
    leaf? d path = (walk? d (Path.segments path)).filter Value.isLeaf := by
  ext value
  rw [leaf?_eq_some_iff, mem_flatten_iff hfree hd, mem_branches_iff_walk? hd,
    and_iff_right (Path.segments_ne_nil path), Option.filter_eq_some_iff]

/-! ## Looking up -/

theorem get?_of_dot_mem (hfree : DotFree d) {key : String} (h : '.' ∈ key.toList) :
    Dict.get? d key = none :=
  Dict.get?_eq_none_iff.2 fun hkey => hfree.dot_not_mem hkey h

theorem dotFree_of_get? (hfree : DotFree d) {key : String} {value : Value}
    (h : Dict.get? d key = some value) : value.DotFree :=
  (dotFree_iff.1 hfree _ (Dict.mem_of_get? h)).2

/-- What was written over is the one thing that may have had dots in names. -/
theorem dotFree_of_insert {key : String} {value : Value} (h : DotFree (Dict.insert d key value))
    (hold : ∀ old, Dict.get? d key = some old → old.DotFree) : DotFree d := by
  refine dotFree_iff.2 fun field hfield => ?_
  rcases Dict.mem_insert_of_mem key value hfield with hstay | ⟨hkey, hget⟩
  · exact dotFree_iff.1 h field hstay
  · exact ⟨hkey ▸ h.dot_not_mem (Dict.mem_keys_of_mem (Dict.mem_insert_self d key value)),
      hold _ hget⟩

theorem DotFree.insert (h : DotFree d) {key : String} (hkey : '.' ∉ key.toList) {value : Value}
    (hvalue : value.DotFree) : DotFree (Dict.insert d key value) := by
  refine dotFree_iff.2 fun field hfield => ?_
  rcases Dict.mem_insert hfield with rfl | hfield
  · exact ⟨hkey, hvalue⟩
  · exact dotFree_iff.1 h field hfield

/-- Looking up goes on in the document under the first name, if no field has the whole path for its
name. -/
theorem lookupAt?_cons (hkeys : ∀ key ∈ Dict.keys d, '.' ∉ key.toList) {key : String}
    {fields : Document} (h : Dict.get? d key = some (.document fields)) {rest : List String}
    (hrest : rest ≠ []) : lookupAt? d (key :: rest) = lookupAt? fields rest := by
  obtain ⟨next, more, rfl⟩ := List.exists_cons_of_ne_nil hrest
  have hwhole : Dict.get? d (Path.ofSegments (key :: next :: more)) = none :=
    Dict.get?_eq_none_iff.2 fun hmem => hkeys _ hmem (by
      simp [Path.ofSegments, String.toList_append])
  rw [lookupAt?, hwhole]
  dsimp only
  rw [h]

theorem lookupAt?_eq_walk? (hfree : DotFree d) {names : List String} (hne : names ≠ []) :
    lookupAt? d names = walk? d names := by
  induction names generalizing d with
  | nil => exact absurd rfl hne
  | cons key rest ih =>
    cases rest with
    | nil =>
      rw [lookupAt?, Path.ofSegments, walk?_singleton]
      cases Dict.get? d key <;> rfl
    | cons next more =>
      have hdot : '.' ∈ (Path.ofSegments (key :: next :: more)).toList := by
        simp [Path.ofSegments, String.toList_append]
      rw [lookupAt?, get?_of_dot_mem hfree hdot, walk?_cons]
      dsimp only
      cases hget : Dict.get? d key with
      | none => rfl
      | some value =>
        have hvalue := dotFree_of_get? hfree hget
        cases value with
        | document fields => exact ih hvalue (List.cons_ne_nil _ _)
        | _ => rfl

/-- A field is found under its own name, with dots or without. -/
theorem lookup?_of_get? {key : String} {value : Value} (h : Dict.get? d key = some value) :
    lookup? d key = some value := by
  obtain ⟨first, more, hsegments⟩ := List.exists_cons_of_ne_nil (Path.segments_ne_nil key)
  have hkey : Path.ofSegments (first :: more) = key := by
    rw [← hsegments, Path.ofSegments_segments]
  rw [lookup?, hsegments]
  cases more <;> rw [lookupAt?, hkey, h]

/-- A name without dots is looked up as it is. -/
theorem lookup?_of_dot_not_mem {name : String} (h : '.' ∉ name.toList) (d : Document) :
    lookup? d name = Dict.get? d name := by
  rw [lookup?, Path.segments_of_dot_not_mem h, lookupAt?, Path.ofSegments]
  cases Dict.get? d name <;> rfl

/-- Where no name has a dot, looking up a path walks along its segments. -/
theorem lookup?_eq_walk? (hfree : DotFree d) (path : String) :
    lookup? d path = walk? d (Path.segments path) :=
  lookupAt?_eq_walk? hfree (Path.segments_ne_nil path)

end Document

end FieldGuard
