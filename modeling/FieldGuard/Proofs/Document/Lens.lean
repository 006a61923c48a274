import FieldGuard.Proofs.Document.Reordering
import FieldGuard.Proofs.Document.RoundTrip

/-!
# Writing at a path and looking it up

Writing at a path and looking a path up go down the same names, and they obey the laws of a lens.
Two paths that do not lie within each other part at some name. Up to there both lead through the
same documents, which writing makes where there are none; from there on neither sees the other.

* `lookupAt?_assignAt_self`, `lookupAt?_assignAt_of_parted`: what is found after writing;
* `assignAt_assignAt`, `reordered_assignAt_comm`: writing twice at one place, and at two places in
  either order;
* `assignAt_of_walk?`: writing what is there changes nothing;
* `assign_lens`: the laws for all paths.
-/

namespace FieldGuard

namespace Value

/-! ## Fields written in another order -/

/-- Which of two fields is written first is at most seen in their order. -/
theorem reordered_insert_comm {key other : String} (h : key ≠ other) (d : Document)
    (value next : Value) :
    Reordered (.document (Dict.insert (Dict.insert d key value) other next))
      (.document (Dict.insert (Dict.insert d other next) key value)) := by
  refine .document (Dict.keys_insert_comm h d value next) fun name v w hv hw => ?_
  rw [Dict.get?_insert_comm h, hw] at hv
  obtain rfl := Option.some.inj hv
  exact .same w

theorem Reordered.insert {v w : Value} (h : Reordered v w) (d : Document) (key : String) :
    Reordered (.document (Dict.insert d key v)) (.document (Dict.insert d key w)) := by
  have hkeys : Dict.keys (Dict.insert d key v) = Dict.keys (Dict.insert d key w) := by
    rw [Dict.keys_insert, Dict.keys_insert]
  refine .document (hkeys ▸ List.Perm.refl _) fun name v' w' hv hw => ?_
  rw [Dict.get?_insert] at hv hw
  by_cases hname : name = key
  · rw [if_pos hname] at hv hw
    rwa [← Option.some.inj hv, ← Option.some.inj hw]
  · rw [if_neg hname] at hv hw
    obtain rfl := Option.some.inj (hv.symm.trans hw)
    exact .same v'

end Value

namespace Document

variable {d : Document} {key next : String} {names others : List String} {value : Value}

/-! ## Writing twice -/

/-- What is in a field after a value is written there, or at a place inside it. -/
def assignInside (fields : Document) : List String → Value → Value
  | [], value => value
  | names, value => .document (assignAt fields names value)

theorem assignAt_eq_insert (d : Document) (key : String) (names : List String) (value : Value) :
    assignAt d (key :: names) value =
      Dict.insert d key (assignInside (child d key) names value) := by
  cases names <;> rfl

theorem child_insert_of_ne (h : next ≠ key) (d : Document) (value : Value) :
    child (Dict.insert d key value) next = child d next := by
  rw [child, child, Dict.get?_insert_of_ne d value h]

/-- What is written twice below one name is written twice into the document there. -/
theorem assignAt_assignAt_cons (hnames : names ≠ []) (hothers : others ≠ []) (d : Document)
    (key : String) (value written : Value) :
    assignAt (assignAt d (key :: names) value) (key :: others) written =
      Dict.insert d key
        (.document (assignAt (assignAt (child d key) names value) others written)) := by
  rw [assignAt_cons hnames, assignAt_cons hothers, child_of_get? (Dict.get?_insert_self _ _ _),
    Dict.insert_insert]

/-- Only what is written last at a place stays. -/
theorem assignAt_assignAt (d : Document) (names : List String) (value written : Value) :
    assignAt (assignAt d names value) names written = assignAt d names written := by
  induction names generalizing d with
  | nil => rfl
  | cons key rest ih =>
    by_cases hrest : rest = []
    · subst hrest
      exact Dict.insert_insert d key value written
    · rw [assignAt_assignAt_cons hrest hrest, ih, assignAt_cons hrest]

/-- Lists of names that part after a common first name part later on. -/
theorem parted_of_cons (h : ¬ key :: names <+: key :: others)
    (h' : ¬ key :: others <+: key :: names) :
    (names ≠ [] ∧ others ≠ []) ∧ ¬ names <+: others ∧ ¬ others <+: names := by
  simp only [List.cons_prefix_cons, true_and] at h h'
  exact ⟨⟨fun e => h (e ▸ List.nil_prefix), fun e => h' (e ▸ List.nil_prefix)⟩, h, h'⟩

/-- Which of two places is written first is at most seen in the order of fields, if neither lies
inside the other. -/
theorem reordered_assignAt_comm (h : ¬ names <+: others) (h' : ¬ others <+: names) (d : Document)
    (value written : Value) :
    Value.Reordered (.document (assignAt (assignAt d names value) others written))
      (.document (assignAt (assignAt d others written) names value)) := by
  induction names generalizing d others with
  | nil => exact absurd List.nil_prefix h
  | cons key rest ih =>
    cases others with
    | nil => exact absurd List.nil_prefix h'
    | cons next more =>
      by_cases hkey : key = next
      · subst hkey
        obtain ⟨⟨hrest, hmore⟩, hr, hm⟩ := parted_of_cons h h'
        rw [assignAt_assignAt_cons hrest hmore, assignAt_assignAt_cons hmore hrest]
        exact (ih hr hm (child d key)).insert d key
      · rw [assignAt_eq_insert, assignAt_eq_insert, assignAt_eq_insert, assignAt_eq_insert,
          child_insert_of_ne hkey, child_insert_of_ne (Ne.symm hkey)]
        exact Value.reordered_insert_comm hkey d _ _

/-! ## Looking up what was written -/

/-- Looking up goes on in the document that was written under the first name. -/
theorem lookupAt?_insert_document (hfree : DotFree d) (hkey : '.' ∉ key.toList)
    (hnames : names ≠ []) (fields : Document) :
    lookupAt? (Dict.insert d key (.document fields)) (key :: names) = lookupAt? fields names := by
  refine lookupAt?_cons (fun name hname => ?_) (Dict.get?_insert_self _ _ _) hnames
  rcases Dict.mem_keys_insert.1 hname with rfl | hname
  · exact hkey
  · exact hfree.dot_not_mem hname

/-- Looking up from another first name on does not see what was written. -/
theorem lookupAt?_insert_of_ne (hkey : '.' ∉ key.toList) (h : next ≠ key) (d : Document)
    (value : Value) (names : List String) :
    lookupAt? (Dict.insert d key value) (next :: names) = lookupAt? d (next :: names) := by
  -- A field may have all of the path for its name, but then its name has a dot.
  have hwhole : Path.ofSegments (next :: names) ≠ key := by
    cases names with
    | nil => exact h
    | cons name more =>
      rintro rfl
      simp [Path.ofSegments, String.toList_append] at hkey
  rw [lookupAt?.eq_def, lookupAt?.eq_def d]
  dsimp only
  rw [Dict.get?_insert_of_ne d value hwhole, Dict.get?_insert_of_ne d value h]

theorem lookupAt?_child (hfree : DotFree d) (hnames : names ≠ []) (key : String) :
    lookupAt? d (key :: names) = lookupAt? (child d key) names := by
  rw [lookupAt?_eq_walk? hfree (List.cons_ne_nil _ _), lookupAt?_eq_walk? (hfree.child key) hnames,
    walk?_cons]
  obtain ⟨next, more, rfl⟩ := List.exists_cons_of_ne_nil hnames
  unfold child
  cases Dict.get? d key with
  | none => rfl
  | some inner => cases inner <;> rfl

/-- What was written at a place is found there, whatever stood in the way. -/
theorem lookupAt?_assignAt_self (hfree : DotFree d) (hne : names ≠ [])
    (hnames : ∀ name ∈ names, '.' ∉ name.toList) (value : Value) :
    lookupAt? (assignAt d names value) names = some value := by
  induction names generalizing d with
  | nil => exact absurd rfl hne
  | cons key rest ih =>
    obtain ⟨hkey, hrestNames⟩ := List.forall_mem_cons.1 hnames
    by_cases hrest : rest = []
    · subst hrest
      rw [assignAt, lookupAt?, Path.ofSegments, Dict.get?_insert_self]
    · rw [assignAt_cons hrest, lookupAt?_insert_document hfree hkey hrest]
      exact ih (hfree.child key) hrest hrestNames

/-- What is found at a place stays when another one is written, if neither lies inside the other.
Where a plain value gives way to a document, nothing was found below it, and nothing is found below
it now but what was written. -/
theorem lookupAt?_assignAt_of_parted (hfree : DotFree d)
    (hnames : ∀ name ∈ names, '.' ∉ name.toList) (h : ¬ names <+: others)
    (h' : ¬ others <+: names) (value : Value) :
    lookupAt? (assignAt d names value) others = lookupAt? d others := by
  induction names generalizing d others with
  | nil => exact absurd List.nil_prefix h
  | cons key rest ih =>
    cases others with
    | nil => exact absurd List.nil_prefix h'
    | cons next more =>
      obtain ⟨hkey, hrestNames⟩ := List.forall_mem_cons.1 hnames
      by_cases hnext : next = key
      · subst hnext
        obtain ⟨⟨hrest, hmore⟩, hr, hm⟩ := parted_of_cons h h'
        rw [assignAt_cons hrest, lookupAt?_insert_document hfree hkey hmore,
          ih (hfree.child next) hrestNames hr hm, lookupAt?_child hfree hmore]
      · rw [assignAt_eq_insert, lookupAt?_insert_of_ne hkey hnext]

/-- Writing what a walk leads to changes nothing. -/
theorem assignAt_of_walk? (hne : names ≠ []) (h : walk? d names = some value) :
    assignAt d names value = d := by
  induction names generalizing d with
  | nil => exact absurd rfl hne
  | cons key rest ih =>
    by_cases hrest : rest = []
    · subst hrest
      rw [walk?_singleton] at h
      exact Dict.insert_eq_self h
    · rw [walk?_cons, Option.bind_eq_some_iff] at h
      obtain ⟨inner, hget, hwalk⟩ := h
      obtain ⟨fields, rfl⟩ := Value.exists_document_of_walk? hrest hwalk
      rw [assignAt_cons hrest, child_of_get? hget, ih hrest hwalk, Dict.insert_eq_self hget]

/-! ## The laws of a lens -/

/-- In a document without dots in names, the value that is written at a path is found there, and
writing what is found at a path changes nothing. At a path that does not lie within the one written,
nor this one within it, the same is found as before, also where a plain value on the way gave way to
a document. Which of two such paths is written first is at most seen in the order of fields, and of
two values written at one path the second one stays. -/
theorem assign_lens (hfree : DotFree d) :
    (∀ path value, lookup? (assign d path value) path = some value) ∧
    (∀ path value, lookup? d path = some value → assign d path value = d) ∧
    (∀ path other value, Path.isWithin path other = false → Path.isWithin other path = false →
      lookup? (assign d path value) other = lookup? d other) ∧
    (∀ path other value written, Path.isWithin path other = false →
      Path.isWithin other path = false →
        Value.Reordered (.document (assign (assign d path value) other written))
          (.document (assign (assign d other written) path value))) ∧
    ∀ path value written, assign (assign d path value) path written = assign d path written := by
  have hnames : ∀ path, ∀ name ∈ Path.segments path, '.' ∉ name.toList :=
    fun path name hname => Path.dot_not_mem_of_mem_segments hname
  refine ⟨fun path value => ?_, fun path value h => ?_, fun path other value h h' => ?_,
    fun path other value written h h' => ?_, fun path => assignAt_assignAt d (Path.segments path)⟩
  · exact lookupAt?_assignAt_self hfree (Path.segments_ne_nil path) (hnames path) value
  · rw [lookup?_eq_walk? hfree] at h
    exact assignAt_of_walk? (Path.segments_ne_nil path) h
  · rw [Path.isWithin_eq_false_iff] at h h'
    exact lookupAt?_assignAt_of_parted hfree (hnames path) h' h value
  · rw [Path.isWithin_eq_false_iff] at h h'
    exact reordered_assignAt_comm h' h d value written

/-- Two paths below a number, one of them with empty names in it: the first one written puts a
document in the place of the number, and the value written at it has a dot in a name. -/
theorem assign_lens_data :
    let d : Document := [("data", .int32 1), ("home", .document [("", .boolean true)])]
    let tags : Value := .document [("a.b", .null)]
    DotFree d ∧
      Path.isWithin "data..tags" "data.name" = false ∧
      Path.isWithin "data.name" "data..tags" = false ∧
      assign d "data..tags" tags =
        [("data", .document [("", .document [("tags", tags)])]),
          ("home", .document [("", .boolean true)])] ∧
      lookup? (assign d "data..tags" tags) "data..tags" = some tags ∧
      lookup? (assign d "data..tags" tags) "data.name" = lookup? d "data.name" ∧
      lookup? d "data.name" = none ∧
      Value.Reordered
        (.document (assign (assign d "data..tags" tags) "data.name" (.string "Ann")))
        (.document (assign (assign d "data.name" (.string "Ann")) "data..tags" tags)) ∧
      assign (assign d "data..tags" tags) "data.name" (.string "Ann") =
        [("data", .document [("", .document [("tags", tags)]), ("name", .string "Ann")]),
          ("home", .document [("", .boolean true)])] ∧
      assign (assign d "data.name" (.string "Ann")) "data..tags" tags =
        [("data", .document [("name", .string "Ann"), ("", .document [("tags", tags)])]),
          ("home", .document [("", .boolean true)])] ∧
      lookup? d "home." = some (.boolean true) ∧
      assign d "home." (.boolean true) = d ∧
      assign (assign d "home." tags) "home." .null = assign d "home." .null := by
  intro d tags
  have hfree : DotFree d := by
    simp [d, DotFree, Value.DotFree, Value.FieldsDotFree]
  have hname : Path.isWithin "data..tags" "data.name" = false := by decide
  have htags : Path.isWithin "data.name" "data..tags" = false := by decide
  obtain ⟨hfound, hsame, hkept, hcomm, hlast⟩ := assign_lens hfree
  exact ⟨hfree, hname, htags, rfl, hfound _ _, hkept _ _ _ hname htags, rfl,
    hcomm _ _ _ _ hname htags, rfl, rfl, rfl, hsame _ _ rfl, hlast _ _ _⟩

end Document

end FieldGuard
