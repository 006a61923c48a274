import FieldGuard.Proofs.Value.Exact
import Mathlib.Logic.Relation

/-!
# Values written in another way

A record or an operand can be written in several ways that mean the same to a filter: an integer in
either width, null or undefined where there is nothing, and the fields of a document in any order.
One exchange of these kinds, at any depth, keeps a value exact and equal to what it was, and so do
any number of them (`Value.Respelled`); so they may be made on either side of an equality
(`Value.same_congr`).
-/

namespace FieldGuard

namespace Value

/-- The second value is the first one after one exchange, at any depth: of the width of an integer,
of null and undefined, or of the order of fields. What filters compare as it is can be exchanged for
what is identical to it, as code is if only the order of the fields in its scope differs. -/
inductive Respells : Value → Value → Prop
  | widen (n : Int32) : Respells (int32 n) (int64 n.toInt64)
  | narrow (n : Int32) : Respells (int64 n.toInt64) (int32 n)
  | toUndefined : Respells null undefined
  | toNull : Respells undefined null
  | reorder {d e : Document} (h : d.Perm e) : Respells (document d) (document e)
  | asIs {v w : Value} (hatomic : v.isAtomic = true) (h : v.identical w = true) : Respells v w
  | item (front : List Value) {v w : Value} (back : List Value) (h : Respells v w) :
      Respells (array (front ++ v :: back)) (array (front ++ w :: back))
  | field (front : Document) (key : String) {v w : Value} (back : Document) (h : Respells v w) :
      Respells (document (front ++ (key, v) :: back)) (document (front ++ (key, w) :: back))

/-- The second value is the first one after any number of exchanges. -/
abbrev Respelled : Value → Value → Prop :=
  Relation.ReflTransGen Respells

theorem same_array {xs ys : List Value} :
    (array xs).same (array ys) = true ↔ List.Forall₂ (fun v w => v.same w = true) xs ys := by
  rw [same, sameItems_iff, List.forall₂_iff_zip]
  simp only [Prod.forall]

theorem same_document {d e : Document} :
    (document d).same (document e) = true ↔
      Document.Corresponds (fun v w => v.same w = true) d e := by
  have hfield : ∀ (found : Option Value) (v : Value),
      (found.isSome = true ∧ ∀ w, found = some w → v.same w = true) ↔
        ∃ w, found = some w ∧ v.same w = true := by
    rintro (_ | w) v <;> simp
  rw [same, Bool.and_eq_true, beq_iff_eq, sameFields_iff, Document.Corresponds]
  simp only [hfield]

theorem forall₂_same_of_isExact {items : List Value} (h : ∀ item ∈ items, item.IsExact) :
    List.Forall₂ (fun v w => v.same w = true) items items :=
  List.forall₂_same.2 fun item hitem => same_refl (h item hitem)

namespace Respells

/-- An exchange keeps a value exact. -/
theorem isExact {v w : Value} (h : Respells v w) (hv : v.IsExact) : w.IsExact := by
  induction h with
  | widen | narrow | toUndefined | toNull => exact ⟨trivial, trivial⟩
  | reorder hperm =>
    obtain ⟨hkeys, hfields⟩ := isExact_document.1 hv
    have hkeysPerm := hperm.map Prod.fst
    exact isExact_document.2
      ⟨hkeysPerm.nodup_iff.1 hkeys, fun field hfield => hfields field (hperm.mem_iff.2 hfield)⟩
  | asIs hatomic h => exact hv.of_identical h
  | item front back _ ih =>
    have hitems := isExact_array.1 hv
    rw [List.forall_mem_append, List.forall_mem_cons] at hitems
    obtain ⟨hfront, hitem, hback⟩ := hitems
    rw [isExact_array, List.forall_mem_append, List.forall_mem_cons]
    exact ⟨hfront, ih hitem, hback⟩
  | @field front key v w back _ ih =>
    obtain ⟨hkeys, hfields⟩ := isExact_document.1 hv
    have hsameKeys : Dict.keys (front ++ (key, w) :: back) =
        Dict.keys (front ++ (key, v) :: back) := by
      simp [Dict.keys]
    rw [List.forall_mem_append, List.forall_mem_cons] at hfields
    obtain ⟨hfront, hfield, hback⟩ := hfields
    rw [isExact_document, Dict.HasDistinctKeys, hsameKeys, List.forall_mem_append,
      List.forall_mem_cons]
    exact ⟨hkeys, hfront, ih hfield, hback⟩

/-- An exchange gives an equal value. -/
theorem same {v w : Value} (h : Respells v w) (hv : v.IsExact) : v.same w = true := by
  have hw : w.IsExact := h.isExact hv
  induction h with
  | widen n | narrow n => exact beq_self_eq_true n.toInt64
  | toUndefined | toNull => rfl
  | reorder hperm =>
    obtain ⟨hkeys, hfields⟩ := isExact_document.1 hv
    exact same_document.2
      (.of_perm hkeys hperm fun field hfield => same_refl (hfields field hfield))
  | asIs hatomic h => rwa [same_of_isAtomic hatomic]
  | @item front v w back _ ih =>
    have hitems := isExact_array.1 hv
    have hothers := isExact_array.1 hw
    rw [List.forall_mem_append, List.forall_mem_cons] at hitems hothers
    obtain ⟨hfront, hv, hback⟩ := hitems
    have hsame : v.same w = true := ih hv hothers.2.1
    exact same_array.2 (List.rel_append (forall₂_same_of_isExact hfront)
      (.cons hsame (forall₂_same_of_isExact hback)))
  | @field front key v w back _ ih =>
    obtain ⟨-, hfields⟩ := isExact_document.1 hv
    obtain ⟨hkeys, hothers⟩ := isExact_document.1 hw
    have hsame : v.same w = true := ih (hfields (key, v) (by simp)) (hothers (key, w) (by simp))
    refine same_document.2 ⟨by simp, fun field hfield => ?_⟩
    -- A field other than the exchanged one stands in both documents.
    obtain rfl | hrest : field = (key, v) ∨ field ∈ front ++ back := by
      simpa [or_left_comm] using hfield
    · exact ⟨w, (Dict.get?_eq_some_iff_mem hkeys).2 (by simp), hsame⟩
    · have hother : field ∈ front ++ (key, w) :: back := by
        simp only [List.mem_append, List.mem_cons] at hrest ⊢
        tauto
      exact ⟨field.2, (Dict.get?_eq_some_iff_mem hkeys).2 hother, same_refl (hfields field hfield)⟩

end Respells

/-- A value written in another way is exact if it was, and equal to what it was. -/
theorem Respelled.isExact_and_same {v w : Value} (h : Respelled v w) (hv : v.IsExact) :
    w.IsExact ∧ v.same w = true := by
  induction h with
  | refl => exact ⟨hv, same_refl hv⟩
  | tail _ hstep ih =>
    obtain ⟨hu, hsame⟩ := ih
    have hw := hstep.isExact hu
    exact ⟨hw, same_trans hv hu hw hsame (hstep.same hu)⟩

/-- Both sides of an equality may be written in other ways. -/
theorem same_congr {v v' w w' : Value} (hv : v.IsExact) (hw : w.IsExact) (hv' : Respelled v v')
    (hw' : Respelled w w') : v.same w = v'.same w' := by
  obtain ⟨hvExact, hvSame⟩ := hv'.isExact_and_same hv
  obtain ⟨hwExact, hwSame⟩ := hw'.isExact_and_same hw
  rw [Bool.eq_iff_iff]
  constructor
  · intro h
    have hright : v.same w' = true := same_trans hv hw hwExact h hwSame
    exact same_euclidean hv hvExact hwExact hvSame hright
  · intro h
    have hright : v.same w' = true := same_trans hv hvExact hwExact hvSame h
    exact same_trans hv hwExact hw hright (same_symm hw hwExact hwSame)

end Value

end FieldGuard
