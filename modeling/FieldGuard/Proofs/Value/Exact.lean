import FieldGuard.Proofs.Document.Distinct
import FieldGuard.Proofs.Value.Equality
import Mathlib.Data.List.Perm.Subperm

/-!
# Values without doubles

Only doubles are not equal to themselves, or equal to several integers. On values without them, at
any depth, both equalities are reflexive, and values equal to one value are equal to each other. For
values compared as they are these are two inductions (`Value.induct_all`). The equality of filters
is the same one after a conversion (`Value.same_eq_identical`), and so has both properties too.

* `Value.IsExact`: no doubles, and no document that names a field twice;
* `Document.Corresponds`: the fields of two documents are related, name by name, in any order;
* `Value.unify`: one integer for both widths, and null for undefined;
* `Value.same_refl`, `Value.same_symm`, `Value.same_trans`: the equality of filters.
-/

namespace FieldGuard

/-! ## Fields that correspond -/

namespace Document

/-- The documents have as many fields, and each field of the first one is related to the one under
its name in the second. -/
def Corresponds (related : Value → Value → Prop) (d e : Document) : Prop :=
  d.length = e.length ∧ ∀ field ∈ d, ∃ w, Dict.get? e field.1 = some w ∧ related field.2 w

namespace Corresponds

variable {related : Value → Value → Prop} {d e f : Document}

theorem of_perm (hd : Dict.HasDistinctKeys d) (hperm : d.Perm e)
    (h : ∀ field ∈ d, related field.2 field.2) : Corresponds related d e := by
  refine ⟨hperm.length_eq, fun field hfield => ⟨field.2, ?_, h field hfield⟩⟩
  rw [← Dict.get?_eq_of_perm hd hperm]
  exact (Dict.get?_eq_some_iff_mem hd).2 hfield

/-- The names are the same ones. -/
theorem perm_keys (hd : Dict.HasDistinctKeys d) (h : Corresponds related d e) :
    (Dict.keys d).Perm (Dict.keys e) := by
  obtain ⟨hlength, hfields⟩ := h
  have hsubset : Dict.keys d ⊆ Dict.keys e := fun key hkey => by
    obtain ⟨value, hmem⟩ := Dict.mem_keys.1 hkey
    obtain ⟨w, hget, -⟩ := hfields _ hmem
    exact Dict.mem_keys_of_mem (Dict.mem_of_get? hget)
  have hsubperm : (Dict.keys d).Subperm (Dict.keys e) := List.Nodup.subperm hd hsubset
  refine hsubperm.perm_of_length_le ?_
  simp [Dict.keys, hlength]

theorem hasDistinctKeys (hd : Dict.HasDistinctKeys d) (h : Corresponds related d e) :
    Dict.HasDistinctKeys e :=
  (perm_keys hd h).nodup_iff.1 hd

/-- So each field of the second document has one in the first. -/
theorem exists_field (hd : Dict.HasDistinctKeys d) (h : Corresponds related d e)
    {field : String × Value} (hfield : field ∈ e) :
    ∃ v, (field.1, v) ∈ d ∧ Dict.get? e field.1 = some field.2 ∧ related v field.2 := by
  have hget : Dict.get? e field.1 = some field.2 :=
    (Dict.get?_eq_some_iff_mem (hasDistinctKeys hd h)).2 hfield
  have hkey : field.1 ∈ Dict.keys d := (perm_keys hd h).mem_iff.2 (Dict.mem_keys_of_mem hfield)
  obtain ⟨v, hmem⟩ := Dict.mem_keys.1 hkey
  obtain ⟨w, hw, hrelated⟩ := h.2 _ hmem
  obtain rfl : w = field.2 := Option.some.inj (hw.symm.trans hget)
  exact ⟨v, hmem, hget, hrelated⟩

/-- Documents that correspond to one document correspond to each other. -/
theorem euclidean (hd : Dict.HasDistinctKeys d) (he : Corresponds related d e)
    (hf : Corresponds related d f)
    (h : ∀ key v u w, (key, v) ∈ d → (key, u) ∈ e → (key, w) ∈ f → related v u → related v w →
      related u w) : Corresponds related e f := by
  refine ⟨he.1.symm.trans hf.1, fun field hfield => ?_⟩
  obtain ⟨v, hv, -, hvu⟩ := exists_field hd he hfield
  obtain ⟨w, hw, hvw⟩ := hf.2 _ hv
  exact ⟨w, hw, h field.1 v field.2 w hv hfield (Dict.mem_of_get? hw) hvu hvw⟩

end Corresponds

end Document

/-- Lists whose items are related to those of one list are related to each other. -/
theorem forall₂_euclidean {α : Type} {related : α → α → Prop} {xs ys zs : List α}
    (hy : List.Forall₂ related xs ys) (hz : List.Forall₂ related xs zs)
    (h : ∀ x ∈ xs, ∀ y ∈ ys, ∀ z ∈ zs, related x y → related x z → related y z) :
    List.Forall₂ related ys zs := by
  induction hy generalizing zs with
  | nil =>
    cases hz
    exact .nil
  | @cons x y xs ys hxy _ ih =>
    cases hz with
    | @cons _ z _ zs hxz hrest =>
      refine .cons ?_ (ih hrest fun x' hx' y' hy' z' hz' => ?_)
      · exact h x List.mem_cons_self y List.mem_cons_self z List.mem_cons_self hxy hxz
      · exact h x' (List.mem_cons_of_mem _ hx') y' (List.mem_cons_of_mem _ hy') z'
          (List.mem_cons_of_mem _ hz')

theorem exists_related_of_mem {α : Type} {related : α → α → Prop} {xs ys : List α}
    (h : List.Forall₂ related xs ys) {y : α} (hy : y ∈ ys) : ∃ x ∈ xs, related x y := by
  induction h with
  | nil => cases hy
  | @cons x z xs zs hxz _ ih =>
    obtain rfl | hy := List.mem_cons.1 hy
    · exact ⟨x, List.mem_cons_self, hxz⟩
    · obtain ⟨x', hx', hrelated⟩ := ih hy
      exact ⟨x', List.mem_cons_of_mem _ hx', hrelated⟩

namespace Value

/-! ## Exact values -/

mutual

/-- No double occurs in the value, at any depth. -/
def DoubleFree : Value → Prop
  | double _ => False
  | array items => ItemsDoubleFree items
  | document fields => FieldsDoubleFree fields
  | codeWithScope _ scope => FieldsDoubleFree scope
  | _ => True

/-- No double occurs in the values of the list. -/
def FieldsDoubleFree : List (String × Value) → Prop
  | [] => True
  | (_, value) :: rest => value.DoubleFree ∧ FieldsDoubleFree rest

/-- No double occurs in the items. -/
def ItemsDoubleFree : List Value → Prop
  | [] => True
  | value :: rest => value.DoubleFree ∧ ItemsDoubleFree rest

end

/-- No double and no document that names a field twice occurs in the value, at any depth. -/
structure IsExact (value : Value) : Prop where
  doubleFree : value.DoubleFree
  distinctKeys : value.DistinctKeys

/-- Whether other values stand inside the value. -/
def isCompound : Value → Bool
  | array _ | document _ | codeWithScope _ _ => true
  | _ => false

/-- Induction over a value, into lists and documents; a scope is entered as the document it is. -/
theorem induct_all {motive : Value → Prop}
    (plain : ∀ value, value.isCompound = false → motive value)
    (array : ∀ items : List Value, (∀ item ∈ items, motive item) → motive (array items))
    (document : ∀ fields : Document, (∀ field ∈ fields, motive field.2) →
      motive (document fields))
    (codeWithScope : ∀ (text : String) (scope : Document), motive (.document scope) →
      motive (codeWithScope text scope)) : ∀ value, motive value
  | .array items => array items fun item _ => induct_all plain array document codeWithScope item
  | .document fields => document fields fun field _ =>
      induct_all plain array document codeWithScope field.2
  | .codeWithScope text scope => codeWithScope text scope
      (induct_all plain array document codeWithScope (.document scope))
  | .null | .undefined | .boolean _ | .int32 _ | .int64 _ | .double _ | .string _ | .dateTime _
  | .objectId _ | .binary _ _ | .timestamp _ _ | .regularExpression _ _ | .decimal128 _ | .symbol _
  | .code _ | .minKey | .maxKey => plain _ rfl
termination_by value => sizeOf value
decreasing_by
  · exact sizeOf_lt_of_mem_items ‹_›
  · exact sizeOf_lt_of_mem_fields ‹_›
  · have htext : 0 < sizeOf text := by
      cases text
      simp only [String.ofByteArray.sizeOf_spec]
      omega
    simp only [Value.document.sizeOf_spec, Value.codeWithScope.sizeOf_spec]
    omega

theorem itemsDoubleFree_iff {items : List Value} :
    ItemsDoubleFree items ↔ ∀ item ∈ items, item.DoubleFree := by
  induction items with
  | nil => simp [ItemsDoubleFree]
  | cons item rest ih => rw [ItemsDoubleFree, ih, List.forall_mem_cons]

theorem fieldsDoubleFree_iff {d : Document} :
    FieldsDoubleFree d ↔ ∀ field ∈ d, field.2.DoubleFree := by
  induction d with
  | nil => simp [FieldsDoubleFree]
  | cons field rest ih => rw [FieldsDoubleFree, ih, List.forall_mem_cons]

theorem itemsDistinctKeys_iff {items : List Value} :
    ItemsDistinctKeys items ↔ ∀ item ∈ items, item.DistinctKeys := by
  induction items with
  | nil => simp [ItemsDistinctKeys]
  | cons item rest ih => rw [ItemsDistinctKeys, ih, List.forall_mem_cons]

theorem isExact_array {items : List Value} :
    (array items).IsExact ↔ ∀ item ∈ items, item.IsExact := by
  constructor
  · rintro ⟨hdouble, hdistinct⟩
    exact fun item hitem => ⟨itemsDoubleFree_iff.1 hdouble item hitem,
      itemsDistinctKeys_iff.1 hdistinct item hitem⟩
  · exact fun h => ⟨itemsDoubleFree_iff.2 fun item hitem => (h item hitem).doubleFree,
      itemsDistinctKeys_iff.2 fun item hitem => (h item hitem).distinctKeys⟩

theorem isExact_document {d : Document} :
    (document d).IsExact ↔ Dict.HasDistinctKeys d ∧ ∀ field ∈ d, field.2.IsExact := by
  constructor
  · rintro ⟨hdouble, hdistinct⟩
    obtain ⟨hkeys, hfields⟩ := Document.distinctKeys_iff.1 hdistinct
    exact ⟨hkeys, fun field hfield =>
      ⟨fieldsDoubleFree_iff.1 hdouble field hfield, hfields field hfield⟩⟩
  · rintro ⟨hkeys, hfields⟩
    exact ⟨fieldsDoubleFree_iff.2 fun field hfield => (hfields field hfield).doubleFree,
      Document.distinctKeys_iff.2 ⟨hkeys, fun field hfield => (hfields field hfield).distinctKeys⟩⟩

/-- A scope is exact as the document it is. -/
theorem isExact_codeWithScope {text : String} {scope : Document} :
    (codeWithScope text scope).IsExact ↔ (document scope).IsExact :=
  ⟨fun h => ⟨h.doubleFree, h.distinctKeys⟩, fun h => ⟨h.doubleFree, h.distinctKeys⟩⟩

/-! ## Values compared as they are -/

theorem identicalItems_iff (xs ys : List Value) :
    identicalItems xs ys = true ↔ List.Forall₂ (fun v w => v.identical w = true) xs ys := by
  induction xs generalizing ys with
  | nil => cases ys <;> simp [identicalItems]
  | cons x xs ih =>
    cases ys with
    | nil => simp [identicalItems]
    | cons y ys => rw [identicalItems, Bool.and_eq_true, ih, List.forall₂_cons]

theorem identicalFields_iff (d e : Document) :
    identicalFields d e = true ↔
      ∀ field ∈ d, ∃ w, Dict.get? e field.1 = some w ∧ field.2.identical w = true := by
  induction d with
  | nil => simp [identicalFields]
  | cons field rest ih =>
    obtain ⟨key, v⟩ := field
    rw [identicalFields, Bool.and_eq_true, ih, List.forall_mem_cons]
    refine and_congr_left' ?_
    cases Dict.get? e key <;> simp

theorem identical_array {xs : List Value} {w : Value} :
    (array xs).identical w = true ↔
      ∃ ys, w = array ys ∧ List.Forall₂ (fun v w => v.identical w = true) xs ys := by
  cases w with
  | array ys => simp [identical, identicalItems_iff]
  | _ => simp [identical]

theorem identical_document {d : Document} {w : Value} :
    (document d).identical w = true ↔
      ∃ e, w = document e ∧ Document.Corresponds (fun v w => v.identical w = true) d e := by
  cases w with
  | document e => simp [identical, identicalFields_iff, Document.Corresponds]
  | _ => simp [identical]

theorem identical_codeWithScope {text : String} {d : Document} {w : Value} :
    (codeWithScope text d).identical w = true ↔
      ∃ e, w = codeWithScope text e ∧ (document d).identical (document e) = true := by
  cases w with
  | codeWithScope other e =>
    have hunfold : (codeWithScope text d).identical (codeWithScope other e) =
        (text == other && (document d).identical (document e)) := by
      simp only [identical]
    rw [hunfold, Bool.and_eq_true, beq_iff_eq]
    constructor
    · rintro ⟨rfl, h⟩
      exact ⟨e, rfl, h⟩
    · rintro ⟨_, hw, h⟩
      obtain ⟨rfl, rfl⟩ := codeWithScope.inj hw
      exact ⟨rfl, h⟩
  | _ => simp [identical]

/-- Values without others inside are identical to themselves only. -/
theorem identical_plain {v : Value} (hplain : v.isCompound = false) (hdouble : v.DoubleFree)
    (w : Value) : v.identical w = true ↔ v = w := by
  constructor
  · intro h
    unfold identical at h
    split at h
    all_goals first | rfl | exact Bool.noConfusion hplain | exact hdouble.elim | simp_all
  · rintro rfl
    cases v with
    | double x => exact hdouble.elim
    | array _ | document _ | codeWithScope _ _ => cases hplain
    | _ => simp [identical]

theorem identical_refl {v : Value} (hv : v.IsExact) : v.identical v = true := by
  induction v using induct_all with
  | plain v hplain => exact (identical_plain hplain hv.doubleFree v).2 rfl
  | array items ih =>
    have hitems := isExact_array.1 hv
    exact identical_array.2
      ⟨items, rfl, List.forall₂_same.2 fun item hitem => ih item hitem (hitems item hitem)⟩
  | document d ih =>
    obtain ⟨hkeys, hfields⟩ := isExact_document.1 hv
    exact identical_document.2
      ⟨d, rfl, .of_perm hkeys (.refl d) fun field hfield => ih field hfield (hfields field hfield)⟩
  | codeWithScope text d ih =>
    exact identical_codeWithScope.2 ⟨d, rfl, ih (isExact_codeWithScope.1 hv)⟩

/-- Values identical to one value are identical to each other. -/
theorem identical_euclidean {v u w : Value} (hv : v.IsExact) (hu : v.identical u = true)
    (hw : v.identical w = true) : u.identical w = true := by
  induction v using induct_all generalizing u w with
  | plain v hplain =>
    obtain rfl := (identical_plain hplain hv.doubleFree u).1 hu
    exact hw
  | array items ih =>
    have hitems := isExact_array.1 hv
    obtain ⟨us, rfl, hus⟩ := identical_array.1 hu
    obtain ⟨ws, rfl, hws⟩ := identical_array.1 hw
    exact identical_array.2 ⟨ws, rfl, forall₂_euclidean hus hws
      fun item hitem _ _ _ _ => ih item hitem (hitems item hitem)⟩
  | document d ih =>
    obtain ⟨hkeys, hfields⟩ := isExact_document.1 hv
    obtain ⟨e, rfl, he⟩ := identical_document.1 hu
    obtain ⟨f, rfl, hf⟩ := identical_document.1 hw
    exact identical_document.2 ⟨f, rfl, he.euclidean hkeys hf
      fun _ _ _ _ hfield _ _ => ih _ hfield (hfields _ hfield)⟩
  | codeWithScope text d ih =>
    obtain ⟨e, rfl, he⟩ := identical_codeWithScope.1 hu
    obtain ⟨f, rfl, hf⟩ := identical_codeWithScope.1 hw
    exact identical_codeWithScope.2 ⟨f, rfl, ih (isExact_codeWithScope.1 hv) he hf⟩

/-- What is identical to an exact value is exact. -/
theorem IsExact.of_identical {v w : Value} (hv : v.IsExact) (h : v.identical w = true) :
    w.IsExact := by
  induction v using induct_all generalizing w with
  | plain v hplain =>
    obtain rfl := (identical_plain hplain hv.doubleFree w).1 h
    exact hv
  | array items ih =>
    have hitems := isExact_array.1 hv
    obtain ⟨others, rfl, hothers⟩ := identical_array.1 h
    refine isExact_array.2 fun other hother => ?_
    obtain ⟨item, hitem, hsame⟩ := exists_related_of_mem hothers hother
    exact ih item hitem (hitems item hitem) hsame
  | document d ih =>
    obtain ⟨hkeys, hfields⟩ := isExact_document.1 hv
    obtain ⟨e, rfl, he⟩ := identical_document.1 h
    refine isExact_document.2 ⟨he.hasDistinctKeys hkeys, fun field hfield => ?_⟩
    obtain ⟨u, hu, -, hsame⟩ := he.exists_field hkeys hfield
    exact ih _ hu (hfields _ hu) hsame
  | codeWithScope text d ih =>
    obtain ⟨e, rfl, he⟩ := identical_codeWithScope.1 h
    exact isExact_codeWithScope.2 (ih (isExact_codeWithScope.1 hv) he)

/-! ## The equality of filters -/

mutual

/-- The value with integers of 64 bits for those of 32, and with null for undefined, at any depth in
lists and documents. -/
def unify : Value → Value
  | undefined => null
  | int32 n => int64 n.toInt64
  | array items => array (unifyItems items)
  | document fields => document (unifyFields fields)
  | value => value

/-- The fields with their values unified. -/
def unifyFields : List (String × Value) → List (String × Value)
  | [] => []
  | (key, value) :: rest => (key, value.unify) :: unifyFields rest

/-- The items unified. -/
def unifyItems : List Value → List Value
  | [] => []
  | value :: rest => value.unify :: unifyItems rest

end

theorem unifyItems_eq_map (items : List Value) : unifyItems items = items.map unify := by
  induction items with
  | nil => rfl
  | cons item rest ih => rw [unifyItems, ih, List.map_cons]

theorem unifyFields_eq_map (fields : Document) :
    unifyFields fields = fields.map fun field => (field.1, field.2.unify) := by
  induction fields with
  | nil => rfl
  | cons field rest ih => rw [unifyFields, ih, List.map_cons]

theorem get?_unifyFields (d : Document) (key : String) :
    Dict.get? (unifyFields d) key = (Dict.get? d key).map unify := by
  rw [unifyFields_eq_map]
  exact Dict.get?_map (fun _ => unify) d key

theorem unify_of_isAtomic {v : Value} (hv : v.isAtomic = true) : v.unify = v := by
  cases v with
  | undefined | int32 _ | array _ | document _ => cases hv
  | _ => rfl

theorem IsExact.unify {v : Value} (hv : v.IsExact) : v.unify.IsExact := by
  induction v using induct_all with
  | plain v hplain =>
    cases v with
    | double x => exact hv.doubleFree.elim
    | array _ | document _ | codeWithScope _ _ => cases hplain
    | _ => exact ⟨trivial, trivial⟩
  | array items ih =>
    have hitems := isExact_array.1 hv
    rw [Value.unify, unifyItems_eq_map, isExact_array, List.forall_mem_map]
    exact fun item hitem => ih item hitem (hitems item hitem)
  | document d ih =>
    obtain ⟨hkeys, hfields⟩ := isExact_document.1 hv
    have hmap : Dict.keys (d.map fun field => (field.1, field.2.unify)) = Dict.keys d := by
      simp [Dict.keys]
    rw [Value.unify, unifyFields_eq_map, isExact_document, Dict.HasDistinctKeys, hmap,
      List.forall_mem_map]
    exact ⟨hkeys, fun field hfield => ih field hfield (hfields field hfield)⟩
  | codeWithScope text d => exact hv

theorem same_of_isAtomic {v : Value} (hv : v.isAtomic = true) (w : Value) :
    v.same w = v.identical w := by
  cases v with
  | null | undefined | int32 _ | int64 _ | double _ | array _ | document _ => cases hv
  | _ => rfl

/-- A value that is compared as it is differs from all that a conversion changes. -/
theorem identical_unify {v : Value} (hv : v.isAtomic = true) (w : Value) :
    v.identical w.unify = v.identical w := by
  cases w with
  | undefined | int32 _ | array _ | document _ =>
    cases v with
    | null | undefined | int32 _ | int64 _ | double _ | array _ | document _ => cases hv
    | _ => rfl
  | _ => rfl

theorem sameItems_eq_identicalItems {xs ys : List Value} (hy : ItemsDoubleFree ys)
    (h : ∀ x ∈ xs, ∀ y : Value, y.DoubleFree → x.same y = x.unify.identical y.unify) :
    sameItems xs ys = identicalItems (unifyItems xs) (unifyItems ys) := by
  induction xs generalizing ys with
  | nil => cases ys <;> rfl
  | cons x xs ih =>
    obtain ⟨hx, hxs⟩ := List.forall_mem_cons.1 h
    cases ys with
    | nil => rfl
    | cons y ys => rw [sameItems, unifyItems, unifyItems, identicalItems, hx y hy.1, ih hy.2 hxs]

theorem sameFields_eq_identicalFields {d e : Document} (he : FieldsDoubleFree e)
    (h : ∀ field ∈ d, ∀ w : Value, w.DoubleFree → field.2.same w = field.2.unify.identical w.unify) :
    sameFields d e = identicalFields (unifyFields d) (unifyFields e) := by
  induction d with
  | nil => rfl
  | cons field rest ih =>
    obtain ⟨key, v⟩ := field
    obtain ⟨hfirst, hrest⟩ := List.forall_mem_cons.1 h
    rw [sameFields, unifyFields, identicalFields, ih hrest, get?_unifyFields]
    cases hget : Dict.get? e key with
    | none => rfl
    | some w =>
      have hw : w.DoubleFree := fieldsDoubleFree_iff.1 he _ (Dict.mem_of_get? hget)
      rw [Option.map_some]
      simp only [hfirst w hw]

/-- Filters compare values without doubles as they are, once converted. -/
theorem same_eq_identical {v w : Value} (hv : v.DoubleFree) (hw : w.DoubleFree) :
    v.same w = v.unify.identical w.unify := by
  induction v using induct_all generalizing w with
  | plain v hplain =>
    cases hatomic : v.isAtomic with
    | true => rw [same_of_isAtomic hatomic, unify_of_isAtomic hatomic, identical_unify hatomic]
    | false =>
      cases v with
      | null | undefined =>
        cases w with
        | double y => exact hw.elim
        | _ => rfl
      | int32 m =>
        cases w with
        | double y => exact hw.elim
        | int32 n => exact same_eq_of_asInteger? rfl rfl
        | _ => rfl
      | int64 m =>
        cases w with
        | double y => exact hw.elim
        | _ => rfl
      | double x => exact hv.elim
      | array _ | document _ => cases hplain
      | _ => cases hatomic
  | array items ih =>
    have hitems := itemsDoubleFree_iff.1 hv
    cases w with
    | array others =>
      exact sameItems_eq_identicalItems hw fun item hitem _ => ih item hitem (hitems item hitem)
    | _ => rfl
  | document d ih =>
    have hfields := fieldsDoubleFree_iff.1 hv
    cases w with
    | document e =>
      have hlength : ∀ f : Document, (unifyFields f).length = f.length := fun f => by
        rw [unifyFields_eq_map, List.length_map]
      rw [same, unify, unify, identical, hlength, hlength, sameFields_eq_identicalFields hw
        fun field hfield _ => ih field hfield (hfields field hfield)]
    | _ => rfl
  | codeWithScope text d => rw [same_of_isAtomic rfl, unify_of_isAtomic rfl, identical_unify rfl]

theorem same_refl {v : Value} (hv : v.IsExact) : v.same v = true := by
  rw [same_eq_identical hv.doubleFree hv.doubleFree]
  exact identical_refl hv.unify

/-- Values that are equal for a filter to one value are so to each other. -/
theorem same_euclidean {v u w : Value} (hv : v.IsExact) (hu : u.IsExact) (hw : w.IsExact)
    (hvu : v.same u = true) (hvw : v.same w = true) : u.same w = true := by
  rw [same_eq_identical hv.doubleFree hu.doubleFree] at hvu
  rw [same_eq_identical hv.doubleFree hw.doubleFree] at hvw
  rw [same_eq_identical hu.doubleFree hw.doubleFree]
  exact identical_euclidean hv.unify hvu hvw

theorem same_symm {v w : Value} (hv : v.IsExact) (hw : w.IsExact) (h : v.same w = true) :
    w.same v = true :=
  same_euclidean hv hw hv h (same_refl hv)

theorem same_trans {v u w : Value} (hv : v.IsExact) (hu : u.IsExact) (hw : w.IsExact)
    (hvu : v.same u = true) (huw : u.same w = true) : v.same w = true :=
  same_euclidean hu hv hw (same_symm hv hu hvu) huw

end Value

end FieldGuard
