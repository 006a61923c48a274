import FieldGuard.Document.Intersection
import FieldGuard.Proofs.Document.Leaves

/-!
# What documents have in common

The fields that several documents define, each on its own.

* `Value.get?_commonFields`: what stands under a key is what all have in common there, if all define
  it;
* `Value.common_documents`, `Value.common_eq_getLastD`: what documents have in common under a key is
  what their fields have in common; of other values the last one is taken whole;
* `Document.distinctKeys_commonFields`: no name is there twice.
-/

namespace FieldGuard

/-! ## Maps that may fail -/

section

variable {α β : Type} {f : α → Option β} {xs : List α}

theorem mapM_eq_some_map {g : α → β} (h : ∀ x ∈ xs, f x = some (g x)) :
    xs.mapM f = some (xs.map g) := by
  induction xs with
  | nil => rfl
  | cons x xs ih =>
    obtain ⟨hx, hxs⟩ := List.forall_mem_cons.1 h
    rw [List.mapM_cons, hx, ih hxs]
    rfl

theorem mapM_eq_none {x : α} (hx : x ∈ xs) (h : f x = none) : xs.mapM f = none := by
  induction xs with
  | nil => simp at hx
  | cons first xs ih =>
    rw [List.mapM_cons]
    rcases List.mem_cons.1 hx with rfl | hx
    · rw [h]
      rfl
    · rw [ih hx]
      cases f first <;> rfl

theorem exists_of_mapM_eq_some {ys : List β} (h : xs.mapM f = some ys) {y : β} (hy : y ∈ ys) :
    ∃ x ∈ xs, f x = some y := by
  induction xs generalizing ys with
  | nil =>
    cases h
    simp at hy
  | cons x xs ih =>
    simp only [List.mapM_cons, Option.bind_eq_bind, Option.bind_eq_some_iff] at h
    obtain ⟨first, hfirst, rest, hrest, h⟩ := h
    cases h
    rcases List.mem_cons.1 hy with rfl | hy
    · exact ⟨x, List.mem_cons_self, hfirst⟩
    · obtain ⟨other, hother, hy⟩ := ih hrest hy
      exact ⟨other, List.mem_cons_of_mem _ hother, hy⟩

theorem mapM_replicate {x : α} {y : β} (h : f x = some y) (n : Nat) :
    (List.replicate n x).mapM f = some (List.replicate n y) := by
  have hall : ∀ x' ∈ List.replicate n x, f x' = some y := fun x' hx' => by
    rw [List.eq_of_mem_replicate hx', h]
  rw [mapM_eq_some_map hall, List.map_replicate]

end

/-! ## One field -/

namespace Value

theorem defined?_eq_some {key : String} {d : Document} {value : Value} :
    defined? key d = some value ↔ Dict.get? d key = some value ∧ value.isUndefined = false := by
  simp [defined?, Option.filter_eq_some_iff]

theorem commonFields_undefined_cons (others : List Document) {key : String} {value : Value}
    (h : value.isUndefined = true) (rest : Document) :
    commonFields others ((key, value) :: rest) = commonFields others rest := by
  rw [commonFields, if_pos h]

theorem commonFields_cons_none {others : List Document} {key : String}
    (h : others.mapM (defined? key) = none) (value : Value) (rest : Document) :
    commonFields others ((key, value) :: rest) = commonFields others rest := by
  rw [commonFields, h, ite_self]

theorem commonFields_cons_some {others : List Document} {key : String} {value : Value}
    {values : List Value} (hvalue : value.isUndefined = false)
    (h : others.mapM (defined? key) = some values) (rest : Document) :
    commonFields others ((key, value) :: rest) =
      (key, common values value) :: commonFields others rest := by
  rw [commonFields, if_neg (by simp [hvalue]), h]

/-- The field at the front stays out, or stands there with what all have in common under its
name. -/
theorem commonFields_cons_cases (others : List Document) (key : String) (value : Value)
    (rest : Document) :
    commonFields others ((key, value) :: rest) = commonFields others rest ∨
      ∃ values, value.isUndefined = false ∧ others.mapM (defined? key) = some values ∧
        commonFields others ((key, value) :: rest) =
          (key, common values value) :: commonFields others rest := by
  cases hvalue : value.isUndefined with
  | true => exact .inl (commonFields_undefined_cons others hvalue rest)
  | false =>
    cases h : others.mapM (defined? key) with
    | none => exact .inl (commonFields_cons_none h value rest)
    | some values => exact .inr ⟨values, rfl, rfl, commonFields_cons_some hvalue h rest⟩

theorem keys_commonFields_sublist (others : List Document) (d : Document) :
    (Dict.keys (commonFields others d)).Sublist (Dict.keys d) := by
  induction d with
  | nil => exact .slnil
  | cons field rest ih =>
    obtain ⟨key, value⟩ := field
    rcases commonFields_cons_cases others key value rest with h | ⟨values, -, -, h⟩
    · rw [h]
      exact ih.cons key
    · rw [h]
      exact ih.cons_cons key

/-- What stands under a key is what all have in common there, if all define it. -/
theorem get?_commonFields {d : Document} (hd : Dict.HasDistinctKeys d) (others : List Document)
    (key : String) : Dict.get? (commonFields others d) key =
      (defined? key d).bind fun value =>
        (others.mapM (defined? key)).map fun values => common values value := by
  induction d with
  | nil => rfl
  | cons field rest ih =>
    obtain ⟨k, value⟩ := field
    obtain ⟨hk, hrest⟩ := List.nodup_cons.1 hd
    by_cases hkey : k = key
    · subst hkey
      have hnone : Dict.get? (commonFields others rest) k = none :=
        Dict.get?_eq_none_iff.2 fun h => hk ((keys_commonFields_sublist others rest).subset h)
      have hfirst : Dict.get? ((k, value) :: rest) k = some value := by
        rw [Dict.get?_cons, if_pos rfl]
      cases hvalue : value.isUndefined with
      | true =>
        have hundefined : defined? k ((k, value) :: rest) = none := by
          simp [defined?, hfirst, hvalue]
        rw [commonFields_undefined_cons others hvalue, hnone, hundefined, Option.bind_none]
      | false =>
        rw [defined?_eq_some.2 ⟨hfirst, hvalue⟩, Option.bind_some]
        cases h : others.mapM (defined? k) with
        | none => rw [commonFields_cons_none h, hnone, Option.map_none]
        | some values =>
          rw [commonFields_cons_some hvalue h, Dict.get?_cons, if_pos rfl, Option.map_some]
    · have hdefined : defined? key ((k, value) :: rest) = defined? key rest := by
        rw [defined?, defined?, Dict.get?_cons, if_neg hkey]
      rw [hdefined, ← ih hrest]
      rcases commonFields_cons_cases others k value rest with h | ⟨values, -, -, h⟩
      · rw [h]
      · rw [h, Dict.get?_cons, if_neg hkey]

/-! ## What values have in common -/

theorem asDocument?_eq_some {value : Value} {fields : Document} :
    value.asDocument? = some fields ↔ value = document fields := by
  cases value <;> simp [asDocument?]

theorem common_documents {values : List Value} {documents : List Document}
    (h : values.mapM asDocument? = some documents) (fields : Document) :
    common values (document fields) = document (commonFields documents fields) := by
  rw [common, h]

/-- Where one value is no document, the last one is taken whole. -/
theorem common_eq_getLastD {values : List Value} {value : Value}
    (h : value.isDocument = false ∨ values.mapM asDocument? = none) :
    common values value = values.getLastD value := by
  cases value with
  | document fields =>
    rcases h with h | h
    · cases h
    · rw [common, h]
  | _ => rfl

end Value

namespace Document

open Value (commonFields common defined?)

variable {first : Document} {others : List Document}

/-! ## Names that do not repeat -/

theorem mem_commonFields {field : String × Value} (h : field ∈ commonFields others first) :
    ∃ value values, (field.1, value) ∈ first ∧ others.mapM (defined? field.1) = some values ∧
      field.2 = common values value := by
  induction first with
  | nil => simp [commonFields] at h
  | cons front rest ih =>
    obtain ⟨key, value⟩ := front
    rcases Value.commonFields_cons_cases others key value rest with
      hrest | ⟨values, -, hvalues, hcons⟩
    · obtain ⟨value, values, hmem, hfield⟩ := ih (hrest ▸ h)
      exact ⟨value, values, List.mem_cons_of_mem _ hmem, hfield⟩
    · rw [hcons] at h
      rcases List.mem_cons.1 h with rfl | h
      · exact ⟨value, values, List.mem_cons_self, hvalues, rfl⟩
      · obtain ⟨value, values, hmem, hfield⟩ := ih h
        exact ⟨value, values, List.mem_cons_of_mem _ hmem, hfield⟩

theorem distinctKeys_commonFields_of_forall (hd : DistinctKeys first)
    (ho : ∀ d ∈ others, DistinctKeys d)
    (h : ∀ field ∈ first, ∀ values : List Value, (∀ value ∈ values, value.DistinctKeys) →
      (common values field.2).DistinctKeys) : DistinctKeys (commonFields others first) := by
  refine distinctKeys_iff.2 ⟨hd.keys.sublist (Value.keys_commonFields_sublist others first), ?_⟩
  intro field hfield
  obtain ⟨value, values, hmem, hvalues, hcommon⟩ := mem_commonFields hfield
  rw [hcommon]
  refine h _ hmem values fun value hvalue => ?_
  obtain ⟨d, hdmem, hdefined⟩ := exists_of_mapM_eq_some hvalues hvalue
  exact (ho d hdmem).get? (Value.defined?_eq_some.1 hdefined).1

theorem distinctKeys_getLastD {value : Value} {values : List Value} (hvalue : value.DistinctKeys)
    (hvalues : ∀ value ∈ values, value.DistinctKeys) : (values.getLastD value).DistinctKeys :=
  List.forall_mem_cons.2 ⟨hvalue, hvalues⟩ _ List.getLastD_mem_cons

theorem distinctKeys_common {value : Value} {values : List Value} (hvalue : value.DistinctKeys)
    (hvalues : ∀ value ∈ values, value.DistinctKeys) : (common values value).DistinctKeys := by
  induction value using Value.induct_document generalizing values with
  | plain value hdoc =>
    rw [Value.common_eq_getLastD (.inl hdoc)]
    exact distinctKeys_getLastD hvalue hvalues
  | document fields ih =>
    cases hdocuments : values.mapM Value.asDocument? with
    | none =>
      rw [Value.common_eq_getLastD (.inr hdocuments)]
      exact distinctKeys_getLastD hvalue hvalues
    | some documents =>
      rw [Value.common_documents hdocuments]
      refine distinctKeys_commonFields_of_forall hvalue (fun d hdmem => ?_)
        fun field hfield _ h => ih field hfield (DistinctKeys.value hvalue hfield) h
      obtain ⟨value, hmem, hdocument⟩ := exists_of_mapM_eq_some hdocuments hdmem
      obtain rfl := Value.asDocument?_eq_some.1 hdocument
      exact hvalues _ hmem

theorem distinctKeys_commonFields (hd : DistinctKeys first) (ho : ∀ d ∈ others, DistinctKeys d) :
    DistinctKeys (commonFields others first) :=
  distinctKeys_commonFields_of_forall hd ho fun _ hfield _ hvalues =>
    distinctKeys_common (hd.value hfield) hvalues

end Document

end FieldGuard
