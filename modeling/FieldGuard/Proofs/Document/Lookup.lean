import FieldGuard.Proofs.Document.Distinct
import FieldGuard.Proofs.Document.Walking

/-!
# Looking up and flattening

Filters, sorting and the check of a patch look fields up in the document; permissions and
projections go by the leaves under their paths. Where no name has a dot, both see the same fields:
what is found at a path is the leaf under it, or the document whose leaves lie below it.

* `Value.startingWith_branches`: the branches that start with some names are those of the value that
  the names lead to;
* `Document.filter_isWithin_flatten`: the leaves at or below a path are those of the value found
  there, in their order;
* `Document.lookup?_agrees_flatten`: leaves, documents and what is not there, path by path.
-/

namespace FieldGuard

/-! ## Paths below a container -/

namespace Path

/-- Whether a path lies in a container without being the container itself. -/
def isBelow (path container : String) : Bool :=
  isWithin path container && path != container

/-- What is left of a path without the container at its front and the dot after it. -/
def withoutContainer (container path : String) : String :=
  String.ofList (path.toList.drop (container.toList.length + 1))

theorem withoutContainer_join (container key : String) :
    withoutContainer container (join (some container) key) = key := by
  have hpath : (join (some container) key).toList = container.toList ++ '.' :: key.toList := by
    simp [join, String.toList_append]
  rw [withoutContainer, hpath, List.drop_append]
  simp

end Path

/-! ## Branches that start alike -/

namespace Value

variable {value : Value}

/-- The branches that start with the names. -/
def startingWith (names : List String) (branches : List (List String × Value)) :
    List (List String × Value) :=
  branches.filter fun branch => names.isPrefixOf branch.1

theorem startingWith_under_self (key : String) (names : List String)
    (branches : List (List String × Value)) :
    startingWith (key :: names) (under key branches) = under key (startingWith names branches) := by
  rw [startingWith, under, List.filter_map, startingWith, under]
  refine congrArg _ (List.filter_congr fun branch _ => ?_)
  simp

theorem startingWith_under_of_ne {key other : String} (h : other ≠ key) (names : List String)
    (branches : List (List String × Value)) :
    startingWith (key :: names) (under other branches) = [] := by
  refine List.filter_eq_nil_iff.2 fun branch hbranch => ?_
  obtain ⟨inner, -, rfl⟩ := mem_under.1 hbranch
  simp [Ne.symm h]

end Value

namespace Document

open Value (startingWith under)

variable {d : Document}

theorem startingWith_branches_of_not_mem {key : String} (h : key ∉ Dict.keys d)
    (names : List String) : startingWith (key :: names) (branches d) = [] := by
  refine List.filter_eq_nil_iff.2 fun branch hbranch => ?_
  obtain ⟨other, value, inner, hmem, -, rfl⟩ := exists_mem_of_mem_branches hbranch
  have hother : other ≠ key := fun e => h (e ▸ Dict.mem_keys_of_mem hmem)
  simp [Ne.symm hother]

/-- The branches that start with a name are those of the field under it. -/
theorem startingWith_branches (hd : DistinctKeys d) (key : String) (names : List String) :
    startingWith (key :: names) (branches d) =
      (Dict.get? d key).elim [] fun value => under key (startingWith names value.branches) := by
  induction d with
  | nil => rfl
  | cons field rest ih =>
    obtain ⟨k, v⟩ := field
    obtain ⟨hk, -, hrest⟩ := distinctKeys_cons.1 hd
    have hsplit : startingWith (key :: names) (branches ((k, v) :: rest)) =
        startingWith (key :: names) (under k v.branches) ++
          startingWith (key :: names) (branches rest) := by
      rw [branches_cons, startingWith, List.filter_append]
      rfl
    rw [hsplit, Dict.get?_cons]
    by_cases h : k = key
    · subst h
      rw [if_pos rfl, Value.startingWith_under_self, startingWith_branches_of_not_mem hk,
        List.append_nil]
      rfl
    · rw [if_neg h, Value.startingWith_under_of_ne h, ih hrest, List.nil_append]

end Document

namespace Value

variable {value : Value}

/-- The branches of a value that start with some names are those of the value that the names lead
to. -/
theorem startingWith_branches (hd : value.DistinctKeys) (names : List String) :
    startingWith names value.branches =
      (value.walk? names).elim [] fun inner =>
        inner.branches.map fun branch => (names ++ branch.1, branch.2) := by
  induction names generalizing value with
  | nil =>
    have hall : startingWith [] value.branches = value.branches :=
      List.filter_eq_self.2 fun _ _ => rfl
    rw [hall, walk?_nil]
    exact (List.map_id _).symm
  | cons key names ih =>
    rcases isLeaf_or_document value with hleaf | ⟨fields, hfields, rfl⟩
    · -- A leaf is a branch without names, and no walk goes on in it.
      have hwalk : value.walk? (key :: names) = none := by
        cases hdocument : value.isDocument with
        | false => exact walk?_of_isDocument_eq_false hdocument (List.cons_ne_nil _ _)
        | true =>
          rw [eq_document_nil_of_isLeaf hleaf hdocument]
          rfl
      rw [branches_of_isLeaf hleaf, hwalk]
      rfl
    · have hwalk : (document fields).walk? (key :: names) =
          (Dict.get? fields key).bind fun inner => inner.walk? names :=
        Document.walk?_cons fields key names
      rw [Document.branches_document hfields, Document.startingWith_branches hd, hwalk]
      cases hget : Dict.get? fields key with
      | none => rfl
      | some inner =>
        have hinner := ih (Document.DistinctKeys.get? hd hget)
        simp only [Option.elim_some, Option.bind_some]
        rw [hinner]
        cases inner.walk? names with
        | none => rfl
        | some leaf =>
          simp only [Option.elim_some, under, List.map_map]
          rfl

/-- The leaves of a value at a path are its branches, the segments of the path in front. -/
theorem leaves_eq_map (path : String) (value : Value) :
    leaves path value =
      value.branches.map fun branch =>
        Document.flatBranch (Path.segments path ++ branch.1, branch.2) := by
  rcases isLeaf_or_document value with hleaf | ⟨fields, hfields, rfl⟩
  · rw [leaves_of_isLeaf hleaf, branches_of_isLeaf hleaf, List.map_singleton,
      Document.flatBranch, List.append_nil, Path.ofSegments_segments]
  · rw [leaves_document hfields, Document.fieldLeaves_eq_map, Document.branches_document hfields]
    refine List.map_congr_left fun branch hbranch => ?_
    have hne := Document.names_ne_nil hbranch
    rw [Document.flatBranch, Path.ofSegments_append (Path.segments_ne_nil path) hne,
      Path.ofSegments_segments, ← Path.ofSegments_cons hne]
    rfl

end Value

/-! ## Leaves at and below a path -/

namespace Document

open Value (startingWith)

variable {d fields : Document} {path : String} {value : Value}

section

variable (hfree : DotFree d) (hd : DistinctKeys d)

include hfree hd

/-- The leaves at or below a path are those of the value that is found there, in their order. -/
theorem filter_isWithin_flatten (path : String) :
    ((flatten d).filter fun leaf => Path.isWithin leaf.1 path) =
      (lookup? d path).elim [] (Value.leaves path) := by
  have hstart : (branches d).filter ((fun leaf => Path.isWithin leaf.1 path) ∘ flatBranch) =
      startingWith (Path.segments path) (branches d) := by
    refine List.filter_congr fun branch hbranch => ?_
    rw [Function.comp_apply, Bool.eq_iff_iff, Path.isWithin_iff, segments_flatBranch hfree hbranch,
      List.isPrefixOf_iff_prefix]
  rw [flatten_eq_map_branches hfree hd, List.filter_map, hstart, lookup?_eq_walk? hfree]
  obtain ⟨key, rest, hsegments⟩ := List.exists_cons_of_ne_nil (Path.segments_ne_nil path)
  rw [hsegments, startingWith_branches hd, walk?_cons]
  cases hget : Dict.get? d key with
  | none => rfl
  | some first =>
    simp only [Option.elim_some, Option.bind_some]
    rw [Value.startingWith_branches (hd.get? hget)]
    cases first.walk? rest with
    | none => rfl
    | some value =>
      simp only [Option.elim_some]
      rw [Value.leaves_eq_map, hsegments, Value.under, List.map_map, List.map_map]
      rfl

/-- What is found at a path and has no fields is the leaf under it. -/
theorem mem_flatten_iff_lookup? :
    (path, value) ∈ flatten d ↔ lookup? d path = some value ∧ value.isLeaf = true := by
  rw [mem_flatten_iff hfree hd, mem_branches_iff_walk? hd, lookup?_eq_walk? hfree,
    and_iff_right (Path.segments_ne_nil path)]

/-- Under the path of a document with fields stands no leaf. -/
theorem not_mem_keys_flatten_of_document (hfields : fields ≠ [])
    (h : lookup? d path = some (.document fields)) : path ∉ Dict.keys (flatten d) := by
  intro hkey
  obtain ⟨leaf, hleaf⟩ := Dict.mem_keys.1 hkey
  obtain ⟨hfound, hplain⟩ := (mem_flatten_iff_lookup? hfree hd).1 hleaf
  obtain rfl : leaf = .document fields := Option.some.inj (hfound.symm.trans h)
  obtain ⟨field, rest, rfl⟩ := List.exists_cons_of_ne_nil hfields
  cases hplain

/-- So all leaves at or below such a path lie below it. -/
theorem filter_isBelow_flatten (hfields : fields ≠ [])
    (h : lookup? d path = some (.document fields)) :
    ((flatten d).filter fun leaf => Path.isBelow leaf.1 path) =
      Value.fieldLeaves (some path) fields := by
  have hbelow : ((flatten d).filter fun leaf => Path.isBelow leaf.1 path) =
      (flatten d).filter fun leaf => Path.isWithin leaf.1 path := by
    refine List.filter_congr fun leaf hleaf => ?_
    have hne : leaf.1 ≠ path := fun e =>
      not_mem_keys_flatten_of_document hfree hd hfields h (e ▸ Dict.mem_keys_of_mem hleaf)
    simp [Path.isBelow, hne]
  rw [hbelow, filter_isWithin_flatten hfree hd, h, Option.elim_some, Value.leaves_document hfields]

/-- The leaves of a document that is found at a path are the leaves below the path, in their
order. -/
theorem flatten_of_lookup? (hfields : fields ≠ []) (h : lookup? d path = some (.document fields)) :
    flatten fields =
      ((flatten d).filter fun leaf => Path.isBelow leaf.1 path).map fun leaf =>
        (Path.withoutContainer path leaf.1, leaf.2) := by
  have hwalk := h
  rw [lookup?_eq_walk? hfree] at hwalk
  have hinner : DotFree fields :=
    Value.of_walk? (fun _ _ _ hdocument hget => dotFree_of_get? hdocument hget) hfree hwalk
  have hkeys : DistinctKeys fields :=
    Value.of_walk? (fun _ _ _ hdocument hget => DistinctKeys.get? hdocument hget) hd hwalk
  rw [filter_isBelow_flatten hfree hd hfields h, fieldLeaves_eq_map,
    flatten_eq_map_branches hinner hkeys, List.map_map]
  refine List.map_congr_left fun branch hbranch => ?_
  have hjoin : Path.ofSegments (path :: branch.1) =
      Path.join (some path) (Path.ofSegments branch.1) :=
    Path.ofSegments_cons (names_ne_nil hbranch)
  simp only [Function.comp_apply, Option.toList_some, List.singleton_append]
  rw [hjoin, Path.withoutContainer_join]
  rfl

/-- Some leaf lies at or below a path exactly if something is found there. -/
theorem holdsWithin_iff (path : String) :
    holdsWithin (flatten d) path = true ↔ (lookup? d path).isSome = true := by
  have hholds : holdsWithin (flatten d) path = true ↔
      ((flatten d).filter fun leaf => Path.isWithin leaf.1 path) ≠ [] := by
    simp [holdsWithin, Dict.keys, List.filter_eq_nil_iff]
  rw [hholds, filter_isWithin_flatten hfree hd]
  cases lookup? d path with
  | none => simp
  | some value =>
    simp only [Option.elim_some, Option.isSome_some, iff_true]
    rw [Value.leaves_eq_map, Ne, List.map_eq_nil_iff]
    exact branches_value_ne_nil value

/-- A document with fields is found at a path exactly if leaves lie below the path and none under
it. -/
theorem exists_document_iff (path : String) :
    (∃ fields, fields ≠ [] ∧ lookup? d path = some (.document fields)) ↔
      path ∉ Dict.keys (flatten d) ∧
        ∃ key ∈ Dict.keys (flatten d), Path.isBelow key path = true := by
  constructor
  · rintro ⟨fields, hfields, h⟩
    have hkey := not_mem_keys_flatten_of_document hfree hd hfields h
    have hholds : holdsWithin (flatten d) path = true :=
      (holdsWithin_iff hfree hd path).2 (by rw [h, Option.isSome_some])
    obtain ⟨key, hmem, hwithin⟩ := List.any_eq_true.1 hholds
    have hne : key ≠ path := fun e => hkey (e ▸ hmem)
    exact ⟨hkey, key, hmem, by simp [Path.isBelow, hwithin, hne]⟩
  · rintro ⟨hkey, key, hmem, hbelow⟩
    obtain ⟨hwithin, hne⟩ := Bool.and_eq_true_iff.1 hbelow
    have hholds : holdsWithin (flatten d) path = true := List.any_eq_true.2 ⟨key, hmem, hwithin⟩
    obtain ⟨value, hvalue⟩ := Option.isSome_iff_exists.1 ((holdsWithin_iff hfree hd path).1 hholds)
    rcases Value.isLeaf_or_document value with hleaf | ⟨fields, hfields, rfl⟩
    · have hflat := (mem_flatten_iff_lookup? hfree hd).2 ⟨hvalue, hleaf⟩
      exact absurd (Dict.mem_keys_of_mem hflat) hkey
    · exact ⟨fields, hfields, hvalue⟩

end

/-! ## Both views -/

/-- Where no name has a dot, looking up and flattening see the same fields. What is found at a path
and is no document with fields is the leaf under the path. A document with fields is found exactly
if no leaf stands under the path but some below it, and its own leaves are these, in their order,
without the path and the dot after it. So there are leaves at or below a path exactly if something
is found there. -/
theorem lookup?_agrees_flatten (hfree : DotFree d) (hd : DistinctKeys d) (path : String) :
    (∀ value, lookup? d path = some value ∧ value.isLeaf = true ↔ (path, value) ∈ flatten d) ∧
    ((∃ fields, fields ≠ [] ∧ lookup? d path = some (.document fields)) ↔
      path ∉ Dict.keys (flatten d) ∧
        ∃ key ∈ Dict.keys (flatten d), Path.isBelow key path = true) ∧
    (∀ fields, fields ≠ [] → lookup? d path = some (.document fields) →
      flatten fields =
        ((flatten d).filter fun leaf => Path.isBelow leaf.1 path).map fun leaf =>
          (Path.withoutContainer path leaf.1, leaf.2)) ∧
    (holdsWithin (flatten d) path = true ↔ (lookup? d path).isSome = true) :=
  ⟨fun _ => (mem_flatten_iff_lookup? hfree hd).symm, exists_document_iff hfree hd path,
    fun _ hfields h => flatten_of_lookup? hfree hd hfields h, holdsWithin_iff hfree hd path⟩

/-- A document with an empty name in it, asked for the document, for the field under the empty name,
and for a name that only starts like one of its names. -/
theorem lookup?_agrees_flatten_data :
    let data : Document := [("", .document []), ("tags", .array [.document [("a.b", .null)]]),
      ("home", .document [("city", .string "Lyon")])]
    let d : Document := [("data", .document data), ("database", .int32 1)]
    DotFree d ∧ DistinctKeys d ∧
      lookup? d "data" = some (.document data) ∧
      "data" ∉ Dict.keys (flatten d) ∧
      (∃ key ∈ Dict.keys (flatten d), Path.isBelow key "data" = true) ∧
      flatten data = [("", .document []), ("tags", .array [.document [("a.b", .null)]]),
        ("home.city", .string "Lyon")] ∧
      flatten data =
        ((flatten d).filter fun leaf => Path.isBelow leaf.1 "data").map (fun leaf =>
          (Path.withoutContainer "data" leaf.1, leaf.2)) ∧
      lookup? d "data." = some (.document []) ∧
      ("data.", .document []) ∈ flatten d ∧
      holdsWithin (flatten d) "data." = true ∧
      lookup? d "dat" = none ∧
      holdsWithin (flatten d) "dat" = false := by
  intro data d
  have hfree : DotFree d := by
    simp [d, data, DotFree, Value.DotFree, Value.FieldsDotFree]
  have hd : DistinctKeys d := by
    simp [d, data, DistinctKeys, Value.DistinctKeys, Value.FieldsDistinctKeys,
      Value.ItemsDistinctKeys]
  obtain ⟨-, hdocument, hleaves, -⟩ := lookup?_agrees_flatten hfree hd "data"
  obtain ⟨hleaf, -, -, hpresent⟩ := lookup?_agrees_flatten hfree hd "data."
  obtain ⟨-, -, -, habsent⟩ := lookup?_agrees_flatten hfree hd "dat"
  have hdata : data ≠ [] := List.cons_ne_nil _ _
  obtain ⟨hkey, hbelow⟩ := hdocument.1 ⟨data, hdata, rfl⟩
  exact ⟨hfree, hd, rfl, hkey, hbelow, rfl, hleaves data hdata rfl, rfl, (hleaf _).1 ⟨rfl, rfl⟩,
    hpresent.2 rfl, rfl, Bool.eq_false_iff.2 fun h => Bool.noConfusion (habsent.1 h)⟩

end Document

end FieldGuard
