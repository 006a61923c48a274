import FieldGuard.Proofs.Document.Distinct
import FieldGuard.Proofs.Error
import FieldGuard.Shape.Validation

/-!
# Which leaves of a record its shape lists

The paths that a shape lists and the leaves of a record that has the shape come from two recursions.
They meet everywhere but where the shape has a container that gets no path of its own and the record
no field: there the record has a leaf, null or a document without fields, and the shape lists no
path at or above it. A record of any shape at all has no listed leaf either.

* `Shape.gapsAt`, `Shape.gapsIn`, `Shape.gaps`: these leaves;
* `Shape.mem_keys_of_mem_gaps`: they are leaves of the record;
* `Shape.covered_or_gap`: every other leaf of a valid record lies at or below a path listed.
-/

namespace FieldGuard

open FieldGuard.Path (isWithin isWithinAny isWithinAny_iff join)

/-! ## Leaves and their paths -/

namespace Value

theorem mem_fieldLeaves {container : Option String} {d : Document} {leaf : String × Value} :
    leaf ∈ fieldLeaves container d ↔
      ∃ field ∈ d, leaf ∈ leaves (join container field.1) field.2 := by
  induction d with
  | nil => simp [fieldLeaves]
  | cons field rest ih => rw [fieldLeaves, List.mem_append, ih, List.exists_mem_cons_iff]

theorem isWithin_of_mem_fieldLeaves {path : String} {d : Document} {leaf : String × Value}
    (h : leaf ∈ fieldLeaves (some path) d) : isWithin leaf.1 path = true := by
  induction d using Document.induct generalizing path with
  | nil => simp [fieldLeaves] at h
  | leaf key value rest hleaf ih =>
    rw [fieldLeaves, leaves_of_isLeaf hleaf] at h
    rcases List.mem_cons.1 h with rfl | h
    · exact Path.isWithin_join path key
    · exact ih h
  | node key fields rest hfields ihfields ih =>
    rw [fieldLeaves, leaves_document hfields] at h
    rcases List.mem_append.1 h with h | h
    · exact Path.isWithin_trans (ihfields h) (Path.isWithin_join path key)
    · exact ih h

theorem isWithin_of_mem_leaves {path : String} {value : Value} {leaf : String × Value}
    (h : leaf ∈ leaves path value) : isWithin leaf.1 path = true := by
  rcases isLeaf_or_document value with hleaf | ⟨fields, hfields, rfl⟩
  · rw [leaves_of_isLeaf hleaf, List.mem_singleton] at h
    rw [h]
    exact Path.isWithin_refl path
  · rw [leaves_document hfields] at h
    exact isWithin_of_mem_fieldLeaves h

end Value

theorem Document.mem_keys_flatten_iff {d : Document} {path : String} :
    path ∈ Dict.keys (flatten d) ↔ ∃ leaf ∈ Value.fieldLeaves none d, leaf.1 = path := by
  rw [flatten, Dict.mem_keys_ofList, List.mem_map]

namespace Shape

/-! ## Shapes and what they list -/

/-- Induction over a shape. -/
theorem induct_items {motive : Shape → Prop}
    (plain : ∀ shape, (∀ fields, shape ≠ object fields) → (∀ inner, shape ≠ optional inner) →
      (∀ item, shape ≠ array item) → motive shape)
    (array : ∀ item, motive item → motive (array item))
    (optional : ∀ inner, motive inner → motive (optional inner))
    (object : ∀ fields, (∀ field ∈ fields, motive field.2) → motive (object fields)) :
    ∀ shape, motive shape
  | .array item => array item (induct_items plain array optional object item)
  | .optional inner => optional inner (induct_items plain array optional object inner)
  | .object fields => object fields fun field _ => induct_items plain array optional object field.2
  | .any | .boolean | .number | .string | .dateTime => plain _ (by simp) (by simp) (by simp)
termination_by shape => sizeOf shape
decreasing_by
  · simp
  · simp
  · rename_i hfield
    have hlt := List.sizeOf_lt_of_mem hfield
    obtain ⟨key, shape⟩ := field
    simp only [Prod.mk.sizeOf_spec, Shape.object.sizeOf_spec] at hlt ⊢
    omega

/-- Induction over a shape, into the fields of documents but not into the items of lists. -/
theorem induct {motive : Shape → Prop}
    (plain : ∀ shape, (∀ fields, shape ≠ object fields) → (∀ inner, shape ≠ optional inner) →
      motive shape)
    (optional : ∀ inner, motive inner → motive (optional inner))
    (object : ∀ fields, (∀ field ∈ fields, motive field.2) → motive (object fields))
    (shape : Shape) : motive shape :=
  induct_items (fun shape hobject hoptional _ => plain shape hobject hoptional)
    (fun item _ => plain (array item) (by simp) (by simp)) optional object shape

variable {containers : Bool} {path : String} {container : Option String}

theorem pathsAt_plain {shape : Shape} (hobject : ∀ fields, shape ≠ object fields)
    (hoptional : ∀ inner, shape ≠ optional inner) :
    shape.pathsAt containers path = [path] := by
  cases shape with
  | object fields => exact absurd rfl (hobject fields)
  | optional inner => exact absurd rfl (hoptional inner)
  | _ => rfl

theorem mem_fieldPathsIn {fields : List (String × Shape)} {listed : String} :
    listed ∈ fieldPathsIn containers container fields ↔
      ∃ field ∈ fields, listed ∈ field.2.pathsAt containers (join container field.1) := by
  induction fields with
  | nil => simp [fieldPathsIn]
  | cons field rest ih => rw [fieldPathsIn, List.mem_append, ih, List.exists_mem_cons_iff]

/-! ## Validation of documents -/

theorem checkFields_eq_ok {fields : List (String × Shape)} {d : Document} :
    checkFields fields d container = .ok () ↔
      ∀ field ∈ fields, check field.2 (Dict.get? d field.1) (join container field.1) = .ok () := by
  induction fields with
  | nil => simp [checkFields]
  | cons field rest ih =>
    rw [checkFields, bind_eq_ok, List.forall_mem_cons, ih]
    exact ⟨fun ⟨_, h⟩ => h, fun h => ⟨(), h⟩⟩

/-- Which fields are declared depends on their names. -/
theorem checkDeclared_eq_ok {fields : List (String × Shape)} {d : Document} :
    checkDeclared fields d container = .ok () ↔
      ∀ key ∈ Dict.keys d, Dict.contains fields key = true := by
  unfold checkDeclared
  split
  · rename_i field hfound
    have hmem := List.mem_of_find?_eq_some hfound
    have hundeclared := List.find?_some hfound
    simp only [Bool.not_eq_true'] at hundeclared
    refine ⟨fun hok => (nomatch hok), fun hall => ?_⟩
    rw [hall _ (Dict.mem_keys_of_mem hmem)] at hundeclared
    cases hundeclared
  · rename_i hnone
    refine ⟨fun _ key hkey => ?_, fun _ => rfl⟩
    obtain ⟨value, hvalue⟩ := Dict.mem_keys.1 hkey
    have hdeclared := List.find?_eq_none.1 hnone _ hvalue
    simpa using hdeclared

theorem mem_keys_of_checkDeclared {fields : List (String × Shape)} {d : Document}
    (h : checkDeclared fields d container = .ok ()) {key : String} (hkey : key ∈ Dict.keys d) :
    ∃ shape, (key, shape) ∈ fields := by
  obtain ⟨shape, hshape⟩ := Option.isSome_iff_exists.1 (checkDeclared_eq_ok.1 h key hkey)
  exact ⟨shape, Dict.mem_of_get? hshape⟩

/-! ## Gaps -/

mutual

/-- The leaves of a value at a path that its shape lists no path for: the value itself, if it has no
fields and its shape is that of a container without a path of its own, or leaves of its fields. -/
def gapsAt (containers : Bool) (path : String) : Shape → Option Value → List String
  | object fields, some value =>
    if containers then []
    else match value with
      | .document (field :: rest) => gapsIn containers (some path) fields (field :: rest)
      | _ => [path]
  | optional inner, value => gapsAt containers path inner value
  | _, _ => []

/-- The leaves of a document that the shapes of its fields list no path for. -/
def gapsIn (containers : Bool) (container : Option String) :
    List (String × Shape) → Document → List String
  | [], _ => []
  | (key, shape) :: rest, d =>
    gapsAt containers (join container key) shape (Dict.get? d key) ++
      gapsIn containers container rest d

end

/-- The leaves of a record that its shape lists no path for. -/
def gaps (containers : Bool) (shape : Shape) (record : Document) : List String :=
  match shape with
  | any => Dict.keys (Document.flatten record)
  | object fields => gapsIn containers none fields record
  | _ => []

theorem mem_gapsIn {fields : List (String × Shape)} {d : Document} {gap : String} :
    gap ∈ gapsIn containers container fields d ↔
      ∃ field ∈ fields,
        gap ∈ gapsAt containers (join container field.1) field.2 (Dict.get? d field.1) := by
  induction fields with
  | nil => simp [gapsIn]
  | cons field rest ih => rw [gapsIn, List.mem_append, ih, List.exists_mem_cons_iff]

theorem gapsAt_plain {shape : Shape} (hobject : ∀ fields, shape ≠ object fields)
    (hoptional : ∀ inner, shape ≠ optional inner) (value : Option Value) :
    gapsAt containers path shape value = [] := by
  cases shape with
  | object fields => exact absurd rfl (hobject fields)
  | optional inner => exact absurd rfl (hoptional inner)
  | _ => simp [gapsAt]

theorem gapsAt_none (shape : Shape) : gapsAt containers path shape none = [] := by
  induction shape using induct with
  | plain shape hobject hoptional => exact gapsAt_plain hobject hoptional none
  | optional inner ih => rwa [gapsAt]
  | object fields _ => simp [gapsAt]

theorem gapsAt_object_of_isLeaf {fields : List (String × Shape)} {value : Value}
    (h : value.isLeaf = true) : gapsAt false path (object fields) (some value) = [path] := by
  cases value with
  | document d =>
    cases d with
    | nil => simp [gapsAt]
    | cons field rest => cases h
  | _ => simp [gapsAt]

theorem gapsAt_object_document {fields : List (String × Shape)} {d : Document} (h : d ≠ []) :
    gapsAt false path (object fields) (some (.document d)) = gapsIn false (some path) fields d := by
  obtain ⟨field, rest, rfl⟩ := List.exists_cons_of_ne_nil h
  rw [gapsAt, if_neg Bool.false_ne_true]

theorem mem_leaves_of_mem_gapsAt {shape : Shape} {value : Value} {gap : String}
    (h : gap ∈ gapsAt containers path shape (some value)) :
    gap ∈ (Value.leaves path value).map Prod.fst := by
  induction shape using induct generalizing path value with
  | plain shape hobject hoptional => simp [gapsAt_plain hobject hoptional] at h
  | optional inner ih =>
    rw [gapsAt] at h
    exact ih h
  | object fields ih =>
    cases containers with
    | true => simp [gapsAt] at h
    | false =>
      rcases Value.isLeaf_or_document value with hleaf | ⟨d, hd, rfl⟩
      · rw [gapsAt_object_of_isLeaf hleaf] at h
        rwa [Value.leaves_of_isLeaf hleaf]
      · rw [gapsAt_object_document hd, mem_gapsIn] at h
        obtain ⟨field, hfield, h⟩ := h
        cases hget : Dict.get? d field.1 with
        | none => simp [hget, gapsAt_none] at h
        | some inner =>
          rw [hget] at h
          obtain ⟨leaf, hleaf, rfl⟩ := List.mem_map.1 (ih field hfield h)
          rw [Value.leaves_document hd]
          exact List.mem_map_of_mem
            (Value.mem_fieldLeaves.2 ⟨_, Dict.mem_of_get? hget, hleaf⟩)

/-! ## Coverage -/

/-- A value without fields is listed or a gap, whether it has the shape or not. -/
theorem covered_or_gap_of_isLeaf (shape : Shape) {value : Value} (h : value.isLeaf = true) :
    isWithinAny path (shape.pathsAt containers path) = true ∨
      path ∈ gapsAt containers path shape (some value) := by
  have hself : isWithinAny path [path] = true := by simp [isWithinAny, Path.isWithin_refl]
  induction shape using induct with
  | plain shape hobject hoptional =>
    rw [pathsAt_plain hobject hoptional]
    exact .inl hself
  | optional inner ih => rwa [pathsAt, gapsAt]
  | object fields _ =>
    cases containers with
    | true => exact .inl (by simp [pathsAt, isWithinAny, Path.isWithin_refl])
    | false =>
      rw [gapsAt_object_of_isLeaf h]
      exact .inr List.mem_cons_self

/-- The fields of a valid document are covered if the shape of each of them covers its value. -/
theorem covered_or_gap_in {fields : List (String × Shape)} {d : Document}
    (hd : d.DistinctKeys) (hcheck : checkFields fields d container = .ok ())
    (hdeclared : checkDeclared fields d container = .ok ())
    (hcover : ∀ field ∈ fields, ∀ path value, value.DistinctKeys →
      check field.2 (some value) path = .ok () → ∀ leaf ∈ Value.leaves path value,
        isWithinAny leaf.1 (field.2.pathsAt containers path) = true ∨
          leaf.1 ∈ gapsAt containers path field.2 (some value))
    {leaf : String × Value} (hleaf : leaf ∈ Value.fieldLeaves container d) :
    isWithinAny leaf.1 (fieldPathsIn containers container fields) = true ∨
      leaf.1 ∈ gapsIn containers container fields d := by
  obtain ⟨⟨key, value⟩, hmem, hleaf⟩ := Value.mem_fieldLeaves.1 hleaf
  obtain ⟨shape, hshape⟩ := mem_keys_of_checkDeclared hdeclared (Dict.mem_keys_of_mem hmem)
  have hget : Dict.get? d key = some value := (Dict.get?_eq_some_iff_mem hd.keys).2 hmem
  have hvalid := checkFields_eq_ok.1 hcheck _ hshape
  rw [hget] at hvalid
  rcases hcover _ hshape _ value (hd.value hmem) hvalid leaf hleaf with hcovered | hgap
  · obtain ⟨listed, hlisted, hwithin⟩ := isWithinAny_iff.1 hcovered
    exact .inl (isWithinAny_iff.2 ⟨listed, mem_fieldPathsIn.2 ⟨_, hshape, hlisted⟩, hwithin⟩)
  · exact .inr (mem_gapsIn.2 ⟨_, hshape, by rwa [hget]⟩)

theorem covered_or_gap_at {shape : Shape} {value : Value} (hvalue : value.DistinctKeys)
    (hcheck : check shape (some value) path = .ok ()) {leaf : String × Value}
    (hleaf : leaf ∈ Value.leaves path value) :
    isWithinAny leaf.1 (shape.pathsAt containers path) = true ∨
      leaf.1 ∈ gapsAt containers path shape (some value) := by
  induction shape using induct generalizing path value leaf with
  | plain shape hobject hoptional =>
    rw [pathsAt_plain hobject hoptional]
    exact .inl (isWithinAny_iff.2
      ⟨path, List.mem_singleton_self _, Value.isWithin_of_mem_leaves hleaf⟩)
  | optional inner ih =>
    rcases Value.isLeaf_or_document value with hplain | ⟨d, hd, rfl⟩
    · rw [Value.leaves_of_isLeaf hplain, List.mem_singleton] at hleaf
      rw [hleaf]
      exact covered_or_gap_of_isLeaf _ hplain
    · rw [pathsAt, gapsAt]
      have hinner : check inner (some (.document d)) path = .ok () := by simpa [check] using hcheck
      exact ih hvalue hinner hleaf
  | object fields ih =>
    cases containers with
    | true =>
      exact .inl (isWithinAny_iff.2
        ⟨path, by simp [pathsAt], Value.isWithin_of_mem_leaves hleaf⟩)
    | false =>
      rcases Value.isLeaf_or_document value with hplain | ⟨d, hd, rfl⟩
      · rw [Value.leaves_of_isLeaf hplain, List.mem_singleton] at hleaf
        rw [hleaf]
        exact covered_or_gap_of_isLeaf _ hplain
      · rw [check] at hcheck
        obtain ⟨⟨⟩, hfields, hdeclared⟩ := bind_eq_ok.1 hcheck
        rw [Value.leaves_document hd] at hleaf
        rw [gapsAt_object_document hd, pathsAt]
        exact covered_or_gap_in hvalue hfields hdeclared
          (fun field hfield _ _ hv hc _ hl => ih field hfield hv hc hl) hleaf

theorem mem_keys_of_mem_gaps {shape : Shape} {record : Document} {gap : String}
    (h : gap ∈ shape.gaps containers record) : gap ∈ Dict.keys (Document.flatten record) := by
  cases shape with
  | any => exact h
  | object fields =>
    rw [gaps, mem_gapsIn] at h
    obtain ⟨field, hfield, h⟩ := h
    cases hget : Dict.get? record field.1 with
    | none => simp [hget, gapsAt_none] at h
    | some value =>
      rw [hget] at h
      obtain ⟨leaf, hleaf, rfl⟩ := List.mem_map.1 (mem_leaves_of_mem_gapsAt h)
      exact Document.mem_keys_flatten_iff.2
        ⟨leaf, Value.mem_fieldLeaves.2 ⟨_, Dict.mem_of_get? hget, hleaf⟩, rfl⟩
  | _ => simp [gaps] at h

/-- Every leaf of a valid record is a gap or lies at or below a path that the shape lists. -/
theorem covered_or_gap {shape : Shape} {record : Document} (hd : record.DistinctKeys)
    (hvalid : shape.validate record = .ok ()) {path : String}
    (h : path ∈ Dict.keys (Document.flatten record)) :
    isWithinAny path (shape.fieldPaths containers) = true ∨
      path ∈ shape.gaps containers record := by
  cases shape with
  | any => exact .inr h
  | object fields =>
    obtain ⟨⟨⟩, hfields, hdeclared⟩ := bind_eq_ok.1 hvalid
    obtain ⟨leaf, hleaf, rfl⟩ := Document.mem_keys_flatten_iff.1 h
    rw [fieldPaths, gaps]
    exact covered_or_gap_in hd hfields hdeclared
      (fun field _ _ _ hv hc _ hl => covered_or_gap_at hv hc hl) hleaf
  | _ => cases hvalid

/-- If containers have paths of their own, a record of a shape of documents has no gaps. -/
theorem gaps_of_containers (fields : List (String × Shape)) (record : Document) :
    (object fields).gaps true record = [] := by
  have hgaps : ∀ (shape : Shape) (path : String) (value : Option Value),
      gapsAt true path shape value = [] := by
    intro shape
    induction shape using induct with
    | plain shape hobject hoptional => exact fun _ => gapsAt_plain hobject hoptional
    | optional inner ih =>
      intro path value
      rw [gapsAt]
      exact ih path value
    | object fields _ =>
      intro path value
      cases value <;> simp [gapsAt]
  refine List.eq_nil_iff_forall_not_mem.2 fun gap hgap => ?_
  obtain ⟨field, -, h⟩ := mem_gapsIn.1 hgap
  rw [hgaps] at h
  cases h

end Shape

end FieldGuard
