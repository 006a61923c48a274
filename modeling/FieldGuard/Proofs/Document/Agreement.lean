import FieldGuard.Proofs.Document.Merging
import FieldGuard.Proofs.Document.Pruning
import Mathlib.Data.List.Forall2

/-!
# Documents that agree outside of some paths

Two documents agree but for what is hidden if they have the same fields in the same order at every
depth, and the same leaves, apart from hidden ones that are no documents in either of them.

* `AgreesBut.branches`, `AgreesOutside.flatten`: their leaves stand under the same names;
* `AgreesOutside.nest`, `AgreesOutside.project`: documents built from such leaves agree again, so
  that projections agree, whatever the names are;
* `AgreesBut.eq`: where nothing is hidden, they are the same.
-/

namespace FieldGuard

/-! ## Related dictionaries -/

namespace Dict

universe u

variable {α : Type u} {r : String → α → α → Prop} {d e : Dict α} {key : String} {value other : α}

/-- The dictionaries have the same keys in the same order, with values that are related under each
of them. -/
def Related (r : String → α → α → Prop) (d e : Dict α) : Prop :=
  List.Forall₂ (fun entry other => entry.1 = other.1 ∧ r entry.1 entry.2 other.2) d e

theorem related_cons {k : String} {d e : Dict α} :
    Related r ((key, value) :: d) ((k, other) :: e) ↔
      key = k ∧ r key value other ∧ Related r d e := by
  rw [Related, List.forall₂_cons, and_assoc]
  rfl

theorem Related.keys_eq (h : Related r d e) : keys d = keys e := by
  induction h with
  | nil => rfl
  | cons hentry _ ih => exact congrArg₂ List.cons hentry.1 ih

theorem Related.get? (h : Related r d e) (key : String) :
    Option.Rel (r key) (d.get? key) (e.get? key) := by
  induction h with
  | nil => exact .none
  | @cons entry other d e hentry _ ih =>
    obtain ⟨k, value⟩ := entry
    obtain ⟨k', value'⟩ := other
    obtain ⟨rfl, hvalue⟩ : k = k' ∧ r k value value' := hentry
    rw [get?_cons, get?_cons]
    split
    · rename_i hk
      exact hk ▸ .some hvalue
    · exact ih

theorem Related.insert (h : Related r d e) (key : String) (hvalue : r key value other) :
    Related r (d.insert key value) (e.insert key other) := by
  induction h with
  | nil => exact related_cons.2 ⟨rfl, hvalue, .nil⟩
  | @cons entry entry' d e hentry hrest ih =>
    obtain ⟨k, old⟩ := entry
    obtain ⟨k', old'⟩ := entry'
    obtain ⟨rfl, hold⟩ : k = k' ∧ r k old old' := hentry
    by_cases hk : k = key
    · subst hk
      rw [Dict.insert, Dict.insert, if_pos rfl, if_pos rfl]
      exact related_cons.2 ⟨rfl, hvalue, hrest⟩
    · rw [insert_cons_of_ne hk, insert_cons_of_ne hk]
      exact related_cons.2 ⟨rfl, hold, ih⟩

theorem Related.ofList {entries others : List (String × α)} (h : Related r entries others) :
    Related r (ofList entries) (ofList others) := by
  suffices hfold : ∀ d e : Dict α, Related r d e →
      Related r (entries.foldl (fun d entry => d.insert entry.1 entry.2) d)
        (others.foldl (fun d entry => d.insert entry.1 entry.2) e) from hfold [] [] .nil
  induction h with
  | nil => exact fun _ _ h => h
  | @cons entry other _ _ hentry _ ih =>
    intro d e h
    obtain ⟨k, value⟩ := entry
    obtain ⟨k', value'⟩ := other
    obtain ⟨rfl, hvalue⟩ : k = k' ∧ r k value value' := hentry
    exact ih _ _ (h.insert _ hvalue)

theorem Related.filter (h : Related r d e) (keep : String → Bool) :
    Related r (d.filter fun entry => keep entry.1) (e.filter fun entry => keep entry.1) :=
  List.rel_filter (fun _ _ hentry => iff_of_eq (congrArg (keep · = true) hentry.1)) h

/-- Related values that are the same make the same dictionaries. -/
theorem Related.eq (h : Related r d e)
    (hvalue : ∀ key value other, (key, value) ∈ d → r key value other → value = other) : d = e := by
  induction h with
  | nil => rfl
  | cons hentry _ ih =>
    rw [ih fun key value other hmem => hvalue key value other (List.mem_cons_of_mem _ hmem),
      Prod.ext hentry.1 (hvalue _ _ _ List.mem_cons_self hentry.2)]

end Dict

/-! ## Agreement -/

namespace Value

/-- The values are the same, or hidden and no documents. -/
def SameUnless (hidden : Prop) (value other : Value) : Prop :=
  value = other ∨ value.isDocument = false ∧ other.isDocument = false ∧ hidden

mutual

/-- The values have the same fields in the same order at every depth, and the same leaves but for
hidden ones, which are no documents in either. -/
def AgreesBut (hidden : List String → Prop) : Value → Value → Prop
  | document fields, document others => FieldsAgreeBut hidden fields others
  | value, other => SameUnless (hidden []) value other

/-- The fields have the same names in the same order, and values that agree. -/
def FieldsAgreeBut (hidden : List String → Prop) :
    List (String × Value) → List (String × Value) → Prop
  | [], [] => True
  | (key, value) :: rest, (key', value') :: rest' =>
    key = key' ∧ AgreesBut (fun names => hidden (key :: names)) value value' ∧
      FieldsAgreeBut hidden rest rest'
  | _, _ => False

end

variable {hidden : List String → Prop} {value other : Value}

theorem agreesBut_of_isDocument_eq_false (h : value.isDocument = false) :
    AgreesBut hidden value other ↔ SameUnless (hidden []) value other := by
  unfold AgreesBut
  split
  · cases h
  · rfl

/-- Values that agree are documents that agree, or no documents and the same unless hidden. -/
theorem AgreesBut.cases (h : AgreesBut hidden value other) :
    (∃ fields others, value = document fields ∧ other = document others ∧
      FieldsAgreeBut hidden fields others) ∨
    value.isDocument = false ∧ other.isDocument = false ∧ SameUnless (hidden []) value other := by
  unfold AgreesBut at h
  split at h
  · exact .inl ⟨_, _, rfl, rfl, h⟩
  · rename_i hdocs
    rcases h with rfl | ⟨hvalue, hother, hhidden⟩
    · have hdoc : value.isDocument = false := by
        cases value with
        | document fields => exact (hdocs fields fields rfl rfl).elim
        | _ => rfl
      exact .inr ⟨hdoc, hdoc, .inl rfl⟩
    · exact .inr ⟨hvalue, hother, .inr ⟨hvalue, hother, hhidden⟩⟩

theorem AgreesBut.isDocument_eq (h : AgreesBut hidden value other) :
    value.isDocument = other.isDocument := by
  rcases h.cases with ⟨fields, others, rfl, rfl, -⟩ | ⟨hvalue, hother, -⟩
  · rfl
  · rw [hvalue, hother]

end Value

namespace Document

open Value (isLeaf SameUnless under)

variable {hidden : List String → Prop} {d e : Document}

/-- The documents have the same fields in the same order at every depth, and the same leaves but
for hidden ones, which are no documents in either. -/
def AgreesBut (hidden : List String → Prop) (d e : Document) : Prop :=
  Value.FieldsAgreeBut hidden d e

theorem agreesBut_iff : AgreesBut hidden d e ↔
    Dict.Related (fun key => Value.AgreesBut fun names => hidden (key :: names)) d e := by
  induction d generalizing e with
  | nil => cases e <;> simp [AgreesBut, Value.FieldsAgreeBut, Dict.Related]
  | cons field rest ih =>
    cases e with
    | nil => simp [AgreesBut, Value.FieldsAgreeBut, Dict.Related]
    | cons field' rest' => rw [Dict.related_cons, ← ih, AgreesBut, Value.FieldsAgreeBut, AgreesBut]

theorem agreesBut_cons {key key' : String} {value other : Value} {rest rest' : Document} :
    AgreesBut hidden ((key, value) :: rest) ((key', other) :: rest') ↔
      key = key' ∧ Value.AgreesBut (fun names => hidden (key :: names)) value other ∧
        AgreesBut hidden rest rest' := Iff.rfl

theorem AgreesBut.refl (hidden : List String → Prop) (d : Document) : AgreesBut hidden d d := by
  induction d using induct generalizing hidden with
  | nil => trivial
  | leaf key value rest hleaf ih =>
    refine agreesBut_cons.2 ⟨rfl, ?_, ih hidden⟩
    cases value with
    | document fields =>
      cases fields with
      | nil => trivial
      | cons _ _ => cases hleaf
    | _ => exact .inl rfl
  | node key fields rest hfields ihfields ih =>
    exact agreesBut_cons.2 ⟨rfl, ihfields fun names => hidden (key :: names), ih hidden⟩

theorem AgreesBut.refl_value (hidden : List String → Prop) (value : Value) :
    Value.AgreesBut hidden value value := by
  cases value with
  | document fields => exact AgreesBut.refl hidden fields
  | _ => exact .inl rfl

theorem AgreesBut.of_sameUnless {value other : Value} (h : SameUnless (hidden []) value other) :
    Value.AgreesBut hidden value other := by
  rcases h with rfl | h
  · exact AgreesBut.refl_value hidden value
  · exact (Value.agreesBut_of_isDocument_eq_false h.1).2 (.inr h)

theorem AgreesBut.exists_cons {key : String} {value : Value} {rest : Document}
    (h : AgreesBut hidden ((key, value) :: rest) e) :
    ∃ other rest', e = (key, other) :: rest' ∧
      Value.AgreesBut (fun names => hidden (key :: names)) value other ∧
      AgreesBut hidden rest rest' := by
  cases e with
  | nil => cases h
  | cons field rest' =>
    obtain ⟨rfl, hvalue, hrest⟩ := agreesBut_cons.1 h
    exact ⟨field.2, rest', rfl, hvalue, hrest⟩

theorem AgreesBut.of_nil (h : AgreesBut hidden [] e) : e = [] := by
  cases e with
  | nil => rfl
  | cons _ _ => cases h

theorem AgreesBut.exists_document {fields : Document} {other : Value}
    (h : Value.AgreesBut hidden (.document fields) other) :
    ∃ others, other = .document others ∧ AgreesBut hidden fields others := by
  rcases h.cases with ⟨_, others, hfields, hothers, hagrees⟩ | ⟨hdoc, -⟩
  · cases hfields
    exact ⟨others, hothers, hagrees⟩
  · cases hdoc

theorem AgreesBut.of_isLeaf {value other : Value} (h : Value.AgreesBut hidden value other)
    (hleaf : value.isLeaf = true) :
    other.isLeaf = true ∧ SameUnless (hidden []) value other := by
  rcases h.cases with ⟨fields, others, rfl, rfl, hagrees⟩ | ⟨-, hdoc, hsame⟩
  · cases fields with
    | nil =>
      obtain rfl := AgreesBut.of_nil hagrees
      exact ⟨rfl, .inl rfl⟩
    | cons _ _ => cases hleaf
  · exact ⟨Value.isLeaf_of_not_isDocument hdoc, hsame⟩

/-- Documents that agree on every leaf are the same. -/
theorem AgreesBut.eq (h : AgreesBut hidden d e)
    (hnone : ∀ branch ∈ branches d, ¬ hidden branch.1) : d = e := by
  induction d using induct generalizing hidden e with
  | nil => exact h.of_nil.symm
  | leaf key value rest hleaf ih =>
    obtain ⟨other, rest', rfl, hvalue, hrest⟩ := h.exists_cons
    rw [branches_leaf_cons hleaf, List.forall_mem_cons] at hnone
    have hsame := (AgreesBut.of_isLeaf hvalue hleaf).2.resolve_right fun h => hnone.1 h.2.2
    rw [hsame, ih hrest hnone.2]
  | node key fields rest hfields ihfields ih =>
    obtain ⟨other, rest', rfl, hvalue, hrest⟩ := h.exists_cons
    obtain ⟨others, rfl, hothers⟩ := AgreesBut.exists_document hvalue
    rw [branches_node_cons hfields, List.forall_mem_append] at hnone
    have hinner : fields = others := ihfields hothers fun branch hbranch =>
      hnone.1 _ (Value.mem_under.2 ⟨branch, hbranch, rfl⟩)
    rw [hinner, ih hrest hnone.2]

/-- The leaves stand under the same names, in the same order. -/
theorem AgreesBut.branches (h : AgreesBut hidden d e) :
    List.Forall₂ (fun branch other => branch.1 = other.1 ∧
      SameUnless (hidden branch.1) branch.2 other.2) (branches d) (branches e) := by
  induction d using induct generalizing hidden e with
  | nil =>
    rw [h.of_nil]
    exact .nil
  | leaf key value rest hleaf ih =>
    obtain ⟨other, rest', rfl, hvalue, hrest⟩ := h.exists_cons
    obtain ⟨hother, hsame⟩ := AgreesBut.of_isLeaf hvalue hleaf
    rw [branches_leaf_cons hleaf, branches_leaf_cons hother]
    exact .cons ⟨rfl, hsame⟩ (ih hrest)
  | node key fields rest hfields ihfields ih =>
    obtain ⟨other, rest', rfl, hvalue, hrest⟩ := h.exists_cons
    obtain ⟨others, rfl, hothers⟩ := AgreesBut.exists_document hvalue
    have hne : others ≠ [] := by
      rintro rfl
      exact hfields (List.forall₂_nil_right_iff.1 (agreesBut_iff.1 hothers))
    rw [branches_node_cons hfields, branches_node_cons hne]
    refine List.rel_append ?_ (ih hrest)
    rw [under, under, List.forall₂_map_left_iff, List.forall₂_map_right_iff]
    exact (ihfields hothers).imp fun _ _ hbranch => ⟨congrArg (key :: ·) hbranch.1, hbranch.2⟩

theorem AgreesBut.related_flatten {r : String → Value → Value → Prop} (h : AgreesBut hidden d e)
    (hr : ∀ names value other, SameUnless (hidden names) value other →
      r (Path.ofSegments names) value other) :
    Dict.Related r (flatten d) (flatten e) := by
  rw [flatten_eq_ofList, flatten_eq_ofList]
  refine Dict.Related.ofList ?_
  rw [Dict.Related, List.forall₂_map_left_iff, List.forall₂_map_right_iff]
  exact h.branches.imp fun _ _ hbranch =>
    ⟨congrArg Path.ofSegments hbranch.1, hr _ _ _ hbranch.2⟩

theorem AgreesBut.keys_flatten_eq (h : AgreesBut hidden d e) :
    Dict.keys (flatten d) = Dict.keys (flatten e) :=
  (h.related_flatten (r := fun _ _ _ => True) fun _ _ _ _ => trivial).keys_eq

theorem AgreesBut.dotFree_iff (h : AgreesBut hidden d e) : DotFree d ↔ DotFree e := by
  induction d using induct generalizing hidden e with
  | nil => rw [h.of_nil]
  | leaf key value rest hleaf ih =>
    obtain ⟨other, rest', rfl, hvalue, hrest⟩ := h.exists_cons
    have hother := (AgreesBut.of_isLeaf hvalue hleaf).1
    rw [dotFree_cons, dotFree_cons, ih hrest]
    simp only [Value.dotFree_of_isLeaf hleaf, Value.dotFree_of_isLeaf hother]
  | node key fields rest hfields ihfields ih =>
    obtain ⟨other, rest', rfl, hvalue, hrest⟩ := h.exists_cons
    obtain ⟨others, rfl, hothers⟩ := AgreesBut.exists_document hvalue
    have hinner : (Value.document fields).DotFree ↔ (Value.document others).DotFree :=
      ihfields hothers
    rw [dotFree_cons, dotFree_cons, ih hrest, hinner]

/-- Replacing leaves, each by one that is the same or by a hidden one. -/
theorem agreesBut_mapLeaves {f : List String → Value → Value}
    (h : ∀ branch ∈ branches d, SameUnless (hidden branch.1) branch.2 (f branch.1 branch.2)) :
    AgreesBut hidden d (mapLeaves f d) := by
  induction d using induct generalizing hidden f with
  | nil => trivial
  | leaf key value rest hleaf ih =>
    rw [branches_leaf_cons hleaf, List.forall_mem_cons] at h
    rw [mapLeaves_leaf_cons hleaf]
    exact agreesBut_cons.2 ⟨rfl, AgreesBut.of_sameUnless h.1, ih h.2⟩
  | node key fields rest hfields ihfields ih =>
    rw [branches_node_cons hfields, List.forall_mem_append] at h
    rw [mapLeaves_node_cons hfields]
    exact agreesBut_cons.2 ⟨rfl, ihfields fun branch hbranch =>
      h.1 _ (Value.mem_under.2 ⟨branch, hbranch, rfl⟩), ih h.2⟩

/-! ## Building documents -/

theorem child_eq_nil {key : String}
    (h : ∀ value, Dict.get? d key = some value → value.isDocument = false) : child d key = [] := by
  unfold child
  split
  · rename_i fields hget
    cases h _ hget
  · rfl

theorem AgreesBut.child (h : AgreesBut hidden d e) (key : String) :
    AgreesBut (fun names => hidden (key :: names)) (child d key) (child e key) := by
  have hget := (agreesBut_iff.1 h).get? key
  generalize hd : Dict.get? d key = value? at hget
  generalize he : Dict.get? e key = other? at hget
  cases hget with
  | none =>
    rw [child_eq_nil (by simp [hd]), child_eq_nil (by simp [he])]
    trivial
  | some hvalue =>
    rcases hvalue.cases with ⟨fields, others, rfl, rfl, hagrees⟩ | ⟨hvalue, hother, -⟩
    · rwa [child_of_get? hd, child_of_get? he]
    · rw [child_eq_nil (by simpa [hd] using hvalue), child_eq_nil (by simpa [he] using hother)]
      trivial

/-- Writing leaves that are the same unless hidden, under the same names. -/
theorem AgreesBut.assignAt (h : AgreesBut hidden d e) {names : List String} {value other : Value}
    (hvalue : SameUnless (hidden names) value other) :
    AgreesBut hidden (assignAt d names value) (assignAt e names other) := by
  induction names generalizing hidden d e with
  | nil => exact h
  | cons key rest ih =>
    by_cases hr : rest = []
    · subst hr
      exact agreesBut_iff.2 ((agreesBut_iff.1 h).insert _ (AgreesBut.of_sameUnless hvalue))
    · rw [assignAt_cons hr, assignAt_cons hr]
      exact agreesBut_iff.2 ((agreesBut_iff.1 h).insert _ (ih (h.child key) hvalue))

/-! ## Flat documents -/

section

variable {paths : List String}

/-- The documents agree but for leaves within the paths. -/
def AgreesOutside (paths : List String) (d e : Document) : Prop :=
  AgreesBut (fun names => isInside paths names = true) d e

/-- The flat documents have leaves under the same paths, which are the same but within the paths
given. -/
abbrev FlatAgreesOutside (paths : List String) (flat other : Document) : Prop :=
  Dict.Related (fun path => SameUnless (Path.isWithinAny path paths = true)) flat other

theorem AgreesOutside.flatten (h : AgreesOutside paths d e) :
    FlatAgreesOutside paths (flatten d) (flatten e) :=
  h.related_flatten fun _ _ _ hsame => hsame

theorem AgreesOutside.nest {flat other : Document} (h : FlatAgreesOutside paths flat other) :
    AgreesOutside paths (nest flat) (nest other) := by
  suffices hfold : ∀ d e : Document, AgreesOutside paths d e →
      AgreesOutside paths (flat.foldl (fun d leaf => assign d leaf.1 leaf.2) d)
        (other.foldl (fun d leaf => assign d leaf.1 leaf.2) e) from hfold [] [] trivial
  induction h with
  | nil => exact fun _ _ h => h
  | @cons leaf other _ _ hleaf _ ih =>
    intro d e h
    obtain ⟨path, value⟩ := leaf
    obtain ⟨path', value'⟩ := other
    obtain ⟨rfl, hvalue⟩ : path = path' ∧ SameUnless _ value value' := hleaf
    refine ih _ _ (AgreesBut.assignAt h ?_)
    rwa [isInside, Path.ofSegments_segments]

/-- Projections of documents that agree agree. -/
theorem AgreesOutside.project (h : AgreesOutside paths d e) (kept : List String) :
    AgreesOutside paths (project d kept) (project e kept) := by
  unfold Document.project
  split
  · exact h
  · refine AgreesOutside.nest ?_
    unfold projectFlat
    split
    · exact h.flatten
    · exact h.flatten.filter fun path => Path.isWithinAny path (Path.outermost kept)

end

end Document

end FieldGuard
