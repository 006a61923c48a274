import FieldGuard.Proofs.Document.CommonFields

/-!
# What a patch has in common with a record

The intersection of a record with one other document, a patch: `overlap`.

* `overlapOrigin_of_mem`: a branch of it stands at or below a plain value of the record, where the
  patch says what it is, or where the record has a document;
* `mem_branches_overlap_of`: at a plain value of the record, where the patch holds a plain value
  too, the overlap has that value.
-/

namespace FieldGuard

namespace Value

/-- Whether the value is neither a document nor undefined. -/
def isPlain (value : Value) : Bool :=
  !value.isDocument && !value.isUndefined

theorem isPlain_iff {value : Value} :
    value.isPlain = true ↔ value.isDocument = false ∧ value.isUndefined = false := by
  simp [isPlain]

theorem isLeaf_of_isPlain {value : Value} (h : value.isPlain = true) : value.isLeaf = true :=
  isLeaf_of_not_isDocument (isPlain_iff.1 h).1

/-- What a value has in common with one that is no document is that one. -/
theorem common_of_isDocument_eq_false {other : Value} (h : other.isDocument = false)
    (value : Value) : common [other] value = other := by
  cases value with
  | document fields =>
    cases other with
    | document _ => cases h
    | _ => rfl
  | _ => rfl

/-- A value that is no document has the other one in common with it. -/
theorem common_isDocument_eq_false {value : Value} (h : value.isDocument = false)
    (other : Value) : common [other] value = other := by
  cases value with
  | document _ => cases h
  | _ => rfl

end Value

namespace Document

open Value (isLeaf isPlain under mem_under)

/-- What a record and a patch both define, with the values of the patch. -/
def overlap (patch record : Document) : Document :=
  Value.commonFields [patch] record

variable {record patch : Document}

@[simp] theorem overlap_nil (patch : Document) : overlap patch [] = [] := rfl

theorem common_document (fields inner : Document) :
    Value.common [.document inner] (.document fields) = .document (overlap inner fields) := rfl

theorem overlap_cons_none {key : String} {value : Value}
    (h : Value.defined? key patch = none) (rest : Document) :
    overlap patch ((key, value) :: rest) = overlap patch rest :=
  Value.commonFields_cons_none (mapM_eq_none List.mem_cons_self h) value rest

theorem overlap_cons_some {key : String} {value other : Value} (hvalue : value.isUndefined = false)
    (h : Value.defined? key patch = some other) (rest : Document) :
    overlap patch ((key, value) :: rest) =
      (key, Value.common [other] value) :: overlap patch rest :=
  Value.commonFields_cons_some hvalue (mapM_replicate h 1) rest

/-- The field at the front stays out, or stands there with what the patch holds under its name. -/
theorem overlap_cons_cases (patch : Document) (key : String) (value : Value) (rest : Document) :
    overlap patch ((key, value) :: rest) = overlap patch rest ∨
      ∃ other, value.isUndefined = false ∧ Value.defined? key patch = some other ∧
        overlap patch ((key, value) :: rest) =
          (key, Value.common [other] value) :: overlap patch rest := by
  cases h : Value.defined? key patch with
  | none => exact .inl (overlap_cons_none h rest)
  | some other =>
    rcases Value.commonFields_cons_cases [patch] key value rest with hsame | ⟨values, hvalue, -, -⟩
    · exact .inl hsame
    · exact .inr ⟨other, hvalue, rfl, overlap_cons_some hvalue h rest⟩

/-- What a document has in common with a patch stands under names of both. -/
theorem mem_keys_patch_of_mem_keys_overlap {key : String}
    (h : key ∈ Dict.keys (overlap patch record)) : key ∈ Dict.keys patch := by
  induction record with
  | nil => simp [Dict.keys] at h
  | cons field rest ih =>
    obtain ⟨k, value⟩ := field
    rcases overlap_cons_cases patch k value rest with hsame | ⟨other, -, hdefined, hover⟩
    · exact ih (hsame ▸ h)
    · rw [hover] at h
      rcases List.mem_cons.1 h with rfl | h
      · exact Dict.mem_keys_iff_get?.2 ⟨other, (Value.defined?_eq_some.1 hdefined).1⟩
      · exact ih h

/-- All of a patch of one field is in common with a document that has this field. -/
theorem overlap_singleton (hd : Dict.HasDistinctKeys record) {key : String} {old value : Value}
    (hget : Dict.get? record key = some old) (hold : old.isUndefined = false)
    (hvalue : value.isPlain = true) : overlap [(key, value)] record = [(key, value)] := by
  obtain ⟨hdoc, hdefined⟩ := Value.isPlain_iff.1 hvalue
  induction record with
  | nil => simp at hget
  | cons field rest ih =>
    obtain ⟨k, v⟩ := field
    obtain ⟨hk, hrest⟩ := List.nodup_cons.1 hd
    rw [Dict.get?_cons] at hget
    split at hget
    · rename_i hkey
      subst hkey
      cases hget
      have hsome : Value.defined? k [(k, value)] = some value :=
        Value.defined?_eq_some.2 ⟨by rw [Dict.get?_cons, if_pos rfl], hdefined⟩
      have hnil : overlap [(k, value)] rest = [] := by
        rw [List.eq_nil_iff_forall_not_mem]
        intro field hfield
        have hkeys := Dict.mem_keys_of_mem hfield
        have hsame : field.1 = k := List.mem_singleton.1 (mem_keys_patch_of_mem_keys_overlap hkeys)
        exact hk (hsame ▸ (Value.keys_commonFields_sublist _ _).subset hkeys)
      rw [overlap_cons_some hold hsome, Value.common_of_isDocument_eq_false hdoc, hnil]
    · rename_i hkey
      have hnone : Value.defined? k [(key, value)] = none := by
        simp [Value.defined?, Dict.get?_cons, Ne.symm hkey]
      rw [overlap_cons_none hnone, ih hrest hget]

theorem distinctKeys_overlap (hr : DistinctKeys record) (hp : DistinctKeys patch) :
    DistinctKeys (overlap patch record) :=
  distinctKeys_commonFields hr (List.forall_mem_singleton.2 hp)

/-! ## Branches -/

/-- A branch of what two values have in common is one of the second value, if the first is no
document; one of what they have in common as documents; or a single value at a document. -/
theorem mem_branches_common {value other : Value} {inner : List String × Value}
    (h : inner ∈ (Value.common [other] value).branches) :
    value.isDocument = false ∧ inner ∈ other.branches ∨
      (∃ fields others, value = .document fields ∧ other = .document others ∧
        inner ∈ branches (overlap others fields)) ∨
      value.isDocument = true ∧ inner.1 = [] := by
  cases hvalue : value.isDocument with
  | false =>
    rw [Value.common_isDocument_eq_false hvalue] at h
    exact .inl ⟨rfl, h⟩
  | true =>
    cases hother : other.isDocument with
    | false =>
      rw [Value.common_of_isDocument_eq_false hother,
        Value.branches_of_isLeaf (Value.isLeaf_of_not_isDocument hother), List.mem_singleton] at h
      exact .inr (.inr ⟨rfl, by rw [h]⟩)
    | true =>
      cases value with
      | document fields =>
        cases other with
        | document others =>
          rw [common_document] at h
          by_cases hnil : overlap others fields = []
          · rw [hnil, Value.branches_of_isLeaf rfl, List.mem_singleton] at h
            exact .inr (.inr ⟨rfl, by rw [h]⟩)
          · rw [branches_document hnil] at h
            exact .inr (.inl ⟨fields, others, rfl, rfl, h⟩)
        | _ => cases hother
      | _ => cases hvalue

/-- Where a branch of an overlap comes from. -/
inductive OverlapOrigin (patch record : Document) (branch : List String × Value) : Prop
  /-- At or below a plain value of the record, from what the patch holds there. -/
  | below (front back : List String) (old other : Value) (names_eq : branch.1 = front ++ back)
      (mem : (front, old) ∈ branches record) (plain : old.isPlain = true)
      (walk : walk? patch front = some other) (defined : other.isUndefined = false)
      (inner : (back, branch.2) ∈ other.branches)
  /-- Where the record has a document. -/
  | atDocument (back : List String) (old : Value) (mem : (branch.1 ++ back, old) ∈ branches record)
      (document : back ≠ [] ∨ old.isDocument = true)

theorem OverlapOrigin.mono {record' : Document} {branch : List String × Value}
    (h : OverlapOrigin patch record branch) (hsub : branches record ⊆ branches record') :
    OverlapOrigin patch record' branch := by
  cases h with
  | below front back old other names_eq mem plain walk defined inner =>
    exact .below front back old other names_eq (hsub mem) plain walk defined inner
  | atDocument back old mem document => exact .atDocument back old (hsub mem) document

/-- A branch of the overlap of two documents that stand under one name in the record and in the
patch. -/
theorem OverlapOrigin.under {key : String} {fields others : Document}
    {inner : List String × Value} (h : OverlapOrigin others fields inner)
    (hget : Dict.get? patch key = some (.document others))
    (hsub : under key (branches fields) ⊆ branches record) :
    OverlapOrigin patch record (key :: inner.1, inner.2) := by
  have hinside : ∀ {names old}, (names, old) ∈ branches fields →
      (key :: names, old) ∈ branches record := fun hmem => hsub (mem_under.2 ⟨_, hmem, rfl⟩)
  cases h with
  | below front back old other names_eq mem plain walk defined hinner =>
    refine .below (key :: front) back old other (congrArg (key :: ·) names_eq) (hinside mem)
      plain ?_
      defined hinner
    rw [walk?_cons, hget]
    exact walk
  | atDocument back old mem document => exact .atDocument back old (hinside mem) document

theorem overlapOrigin_of_mem {branch : List String × Value}
    (h : branch ∈ branches (overlap patch record)) : OverlapOrigin patch record branch := by
  induction record using induct generalizing patch branch with
  | nil => simp at h
  | leaf key value rest hleaf ih =>
    have hcons : branches ((key, value) :: rest) = ([key], value) :: branches rest :=
      branches_leaf_cons hleaf rest
    have hrest : branches rest ⊆ branches ((key, value) :: rest) := by
      rw [hcons]
      exact List.subset_cons_self _ _
    rcases overlap_cons_cases patch key value rest with hsame | ⟨other, hvalue, hdefined, hover⟩
    · exact (ih (hsame ▸ h)).mono hrest
    rw [hover, branches_cons] at h
    rcases List.mem_append.1 h with h | h
    · obtain ⟨inner, hinner, rfl⟩ := mem_under.1 h
      obtain ⟨hget, hother⟩ := Value.defined?_eq_some.1 hdefined
      have hself : ([key], value) ∈ branches ((key, value) :: rest) := by
        rw [hcons]
        exact List.mem_cons_self
      rcases mem_branches_common hinner with ⟨hdoc, hbelow⟩ | ⟨fields, others, rfl, rfl, hboth⟩ |
        ⟨hdoc, hnames⟩
      · exact .below [key] inner.1 value other rfl hself (Value.isPlain_iff.2 ⟨hdoc, hvalue⟩)
          ((walk?_singleton patch key).trans hget) hother hbelow
      · -- A leaf that is a document has no fields, and no overlap.
        cases fields with
        | nil => exact absurd hboth List.not_mem_nil
        | cons _ _ => cases hleaf
      · exact .atDocument [] value (by simpa [hnames] using hself) (.inr hdoc)
    · exact (ih h).mono hrest
  | node key fields rest hfields ihfields ih =>
    have hcons := branches_node_cons hfields key rest
    have hrest : branches rest ⊆ branches ((key, .document fields) :: rest) := by
      rw [hcons]
      exact List.subset_append_right _ _
    have hinside : under key (branches fields) ⊆ branches ((key, .document fields) :: rest) := by
      rw [hcons]
      exact List.subset_append_left _ _
    rcases overlap_cons_cases patch key (.document fields) rest with
      hsame | ⟨other, -, hdefined, hover⟩
    · exact (ih (hsame ▸ h)).mono hrest
    rw [hover, branches_cons] at h
    rcases List.mem_append.1 h with h | h
    · obtain ⟨inner, hinner, rfl⟩ := mem_under.1 h
      rcases mem_branches_common hinner with ⟨hdoc, -⟩ | ⟨_, others, e, rfl, hboth⟩ | ⟨-, hnames⟩
      · cases hdoc
      · cases e
        exact (ihfields hboth).under (Value.defined?_eq_some.1 hdefined).1 hinside
      · -- Some branch of the record leads further than to its document.
        obtain ⟨first, more, hfirst⟩ := List.exists_cons_of_ne_nil (branches_ne_nil hfields)
        have hmem : first ∈ branches fields := hfirst ▸ List.mem_cons_self
        have hfurther := hinside (mem_under.2 ⟨first, hmem, rfl⟩)
        exact .atDocument first.1 first.2 (by simpa [hnames] using hfurther)
          (.inl (names_ne_nil hmem))
    · exact (ih h).mono hrest

/-- At a branch of the record that ends at a plain value, where the patch holds a plain value too,
the overlap has that value. -/
theorem mem_branches_overlap_of {names : List String} {old value : Value}
    (h : (names, old) ∈ branches record) (hold : old.isPlain = true)
    (hwalk : walk? patch names = some value) (hvalue : value.isPlain = true) :
    (names, value) ∈ branches (overlap patch record) := by
  have hleaf := Value.isLeaf_of_isPlain hvalue
  obtain ⟨hdoc, hundefined⟩ := Value.isPlain_iff.1 hvalue
  have hrest : ∀ {patch names field rest}, (names, value) ∈ branches (overlap patch rest) →
      (names, value) ∈ branches (overlap patch (field :: rest)) := by
    intro patch names field rest hmem
    rcases overlap_cons_cases patch field.1 field.2 rest with hsame | ⟨other, -, -, hover⟩
    · rwa [hsame]
    · rw [hover, branches_cons]
      exact List.mem_append_right _ hmem
  induction record using induct generalizing patch names with
  | nil => simp at h
  | leaf key first rest hfirst ih =>
    rw [branches_leaf_cons hfirst] at h
    rcases List.mem_cons.1 h with e | h
    · cases e
      obtain ⟨holddoc, holddefined⟩ := Value.isPlain_iff.1 hold
      rw [walk?_singleton] at hwalk
      rw [overlap_cons_some holddefined (Value.defined?_eq_some.2 ⟨hwalk, hundefined⟩),
        Value.common_isDocument_eq_false holddoc, branches_leaf_cons hleaf]
      exact List.mem_cons_self
    · exact hrest (ih h hwalk)
  | node key fields rest hfields ihfields ih =>
    rw [branches_node_cons hfields] at h
    rcases List.mem_append.1 h with h | h
    · obtain ⟨inner, hinner, e⟩ := mem_under.1 h
      cases e
      -- The walk goes on below the name, so the patch holds a document there.
      rw [walk?_cons, Option.bind_eq_some_iff] at hwalk
      obtain ⟨below, hget, hwalk⟩ := hwalk
      obtain ⟨others, rfl⟩ := Value.exists_document_of_walk? (names_ne_nil hinner) hwalk
      have hover := ihfields hinner hwalk
      have hne : overlap others fields ≠ [] := fun e => by simp [e] at hover
      rw [overlap_cons_some rfl (Value.defined?_eq_some.2 ⟨hget, rfl⟩), common_document,
        branches_node_cons hne]
      exact List.mem_append_left _ (mem_under.2 ⟨_, hover, rfl⟩)
    · exact hrest (ih h hwalk)

end Document

end FieldGuard
