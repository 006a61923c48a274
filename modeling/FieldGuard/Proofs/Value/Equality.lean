import FieldGuard.Value.Equality
import FieldGuard.Value.Number
import Mathlib.Data.List.Forall2

/-!
# What the equality of filters compares

Two values are equal for a filter if both stand for nothing, if they are integers of one number, if
they are numbers of which one is a double and which are equal as doubles, if they are lists of equal
items, or documents with equal values under the same names; values of all other kinds are equal if
they are identical (`Value.Equals`, `Value.same_iff`).
-/

namespace FieldGuard

namespace Value

theorem sizeOf_lt_of_mem_items {items : List Value} {item : Value} (h : item ∈ items) :
    sizeOf item < sizeOf (array items) := by
  rw [array.sizeOf_spec]
  exact Nat.lt_add_left 1 (List.sizeOf_lt_of_mem h)

theorem sizeOf_lt_of_mem_fields {fields : List (String × Value)} {field : String × Value}
    (h : field ∈ fields) : sizeOf field.2 < sizeOf (document fields) := by
  have hlt := List.sizeOf_lt_of_mem h
  obtain ⟨key, value⟩ := field
  rw [Prod.mk.sizeOf_spec] at hlt
  simp only [document.sizeOf_spec]
  omega

/-- The value as an integer of 64 bits, if it is an integer. -/
def asInteger? : Value → Option Int64
  | int32 n => some n.toInt64
  | int64 n => some n
  | _ => none

/-- Whether the value is of a kind that filters compare as it is. -/
def isAtomic : Value → Bool
  | null | undefined | int32 _ | int64 _ | double _ | array _ | document _ => false
  | _ => true

/-- The values are equal for a filter. -/
inductive Equals : Value → Value → Prop
  | nothing {v w : Value} (hv : v.isNothing = true) (hw : w.isNothing = true) : Equals v w
  | integers {v w : Value} {n : Int64} (hv : v.asInteger? = some n) (hw : w.asInteger? = some n) :
      Equals v w
  | numbers {v w : Value} {x y : Float} (hv : v.asNumber? = some x) (hw : w.asNumber? = some y)
      (hdouble : v.asInteger? = none ∨ w.asInteger? = none) (h : (x == y) = true) : Equals v w
  | array {xs ys : List Value} (hlength : xs.length = ys.length)
      (h : ∀ pair ∈ xs.zip ys, Equals pair.1 pair.2) : Equals (.array xs) (.array ys)
  | document {d e : Document} (hlength : d.length = e.length)
      (hkeys : ∀ field ∈ d, (Dict.get? e field.1).isSome = true)
      (h : ∀ field ∈ d, ∀ w, Dict.get? e field.1 = some w → Equals field.2 w) :
      Equals (.document d) (.document e)
  | atomic {v w : Value} (hatomic : v.isAtomic = true) (h : v.identical w = true) : Equals v w

theorem sameItems_iff (xs ys : List Value) :
    sameItems xs ys = true ↔
      xs.length = ys.length ∧ ∀ pair ∈ xs.zip ys, same pair.1 pair.2 = true := by
  induction xs generalizing ys with
  | nil => cases ys <;> simp [sameItems]
  | cons x xs ih =>
    cases ys with
    | nil => simp [sameItems]
    | cons y ys =>
      rw [sameItems, Bool.and_eq_true, ih, List.zip_cons_cons, List.forall_mem_cons]
      simp only [List.length_cons, Nat.add_right_cancel_iff]
      exact and_left_comm

theorem sameFields_iff (d e : Document) :
    sameFields d e = true ↔
      ∀ field ∈ d, (Dict.get? e field.1).isSome = true ∧
        ∀ w, Dict.get? e field.1 = some w → same field.2 w = true := by
  induction d with
  | nil => simp [sameFields]
  | cons field rest ih =>
    obtain ⟨key, v⟩ := field
    rw [sameFields, Bool.and_eq_true, ih, List.forall_mem_cons]
    refine and_congr_left' ?_
    cases Dict.get? e key <;> simp

theorem toInt64_inj (a b : Int32) : a.toInt64 = b.toInt64 ↔ a = b := by
  rw [← Int64.toInt_inj, Int32.toInt_toInt64, Int32.toInt_toInt64, Int32.toInt_inj]

theorem cases_of_asInteger? {v : Value} {n : Int64} (h : v.asInteger? = some n) :
    (∃ a : Int32, v = int32 a ∧ n = a.toInt64) ∨ v = int64 n := by
  cases v with
  | int32 a => exact .inl ⟨a, rfl, (Option.some.inj h).symm⟩
  | int64 a => exact .inr (congrArg int64 (Option.some.inj h))
  | _ => cases h

theorem same_eq_of_asInteger? {v w : Value} {m n : Int64} (hv : v.asInteger? = some m)
    (hw : w.asInteger? = some n) : v.same w = (m == n) := by
  obtain ⟨a, rfl, rfl⟩ | rfl := cases_of_asInteger? hv <;>
    obtain ⟨b, rfl, rfl⟩ | rfl := cases_of_asInteger? hw
  · rw [same, Bool.eq_iff_iff, beq_iff_eq, beq_iff_eq, toInt64_inj]
  all_goals rfl

theorem same_eq_of_asNumber? {v w : Value} {x y : Float} (hv : v.asNumber? = some x)
    (hw : w.asNumber? = some y) (hdouble : v.asInteger? = none ∨ w.asInteger? = none) :
    v.same w = (x == y) := by
  cases v with
  | int32 a | int64 a =>
    obtain rfl := Option.some.inj hv
    cases w with
    | double b =>
      obtain rfl := Option.some.inj hw
      rfl
    | int32 b | int64 b => cases hdouble <;> contradiction
    | _ => cases hw
  | double a =>
    obtain rfl := Option.some.inj hv
    cases w with
    | int32 b | int64 b | double b =>
      obtain rfl := Option.some.inj hw
      rfl
    | _ => cases hw
  | _ => cases hv

theorem equals_of_same {v w : Value} (h : v.same w = true) : v.Equals w := by
  cases v with
  | null => exact .nothing rfl h
  | undefined => exact .nothing rfl h
  | int32 a =>
    cases w with
    | int32 b =>
      have hab : a = b := beq_iff_eq.1 h
      exact .integers rfl (congrArg (fun n : Int32 => some n.toInt64) hab.symm)
    | int64 b => exact .integers rfl (congrArg some (beq_iff_eq.1 h).symm)
    | double y => exact .numbers rfl rfl (.inr rfl) h
    | _ => exact Bool.noConfusion h
  | int64 a =>
    cases w with
    | int32 b => exact .integers rfl (congrArg some (beq_iff_eq.1 h).symm)
    | int64 b => exact .integers rfl (congrArg some (beq_iff_eq.1 h).symm)
    | double y => exact .numbers rfl rfl (.inr rfl) h
    | _ => exact Bool.noConfusion h
  | double x =>
    cases w with
    | int32 b => exact .numbers rfl rfl (.inl rfl) h
    | int64 b => exact .numbers rfl rfl (.inl rfl) h
    | double y => exact .numbers rfl rfl (.inl rfl) h
    | _ => exact Bool.noConfusion h
  | array xs =>
    cases w with
    | array ys =>
      rw [same] at h
      obtain ⟨hlength, hitems⟩ := (sameItems_iff xs ys).1 h
      exact .array hlength fun pair hpair => equals_of_same (hitems pair hpair)
    | _ => exact Bool.noConfusion h
  | document d =>
    cases w with
    | document e =>
      rw [same, Bool.and_eq_true, beq_iff_eq, sameFields_iff] at h
      obtain ⟨hlength, hfields⟩ := h
      exact .document hlength (fun field hfield => (hfields field hfield).1)
        fun field hfield w hw => equals_of_same ((hfields field hfield).2 w hw)
    | _ => exact Bool.noConfusion h
  | _ => exact .atomic rfl h
termination_by sizeOf v
decreasing_by
  all_goals subst_vars
  · exact sizeOf_lt_of_mem_items (List.of_mem_zip hpair).1
  · exact sizeOf_lt_of_mem_fields hfield

theorem Equals.same {v w : Value} (h : v.Equals w) : v.same w = true := by
  induction h with
  | @nothing v w hv hw =>
    cases v with
    | null => exact hw
    | undefined => exact hw
    | _ => exact Bool.noConfusion hv
  | integers hv hw =>
    rw [same_eq_of_asInteger? hv hw]
    exact beq_self_eq_true _
  | numbers hv hw hdouble h => rw [same_eq_of_asNumber? hv hw hdouble, h]
  | array hlength _ ih =>
    rw [Value.same]
    exact (sameItems_iff _ _).2 ⟨hlength, ih⟩
  | document hlength hkeys _ ih =>
    rw [Value.same, Bool.and_eq_true, beq_iff_eq, sameFields_iff]
    exact ⟨hlength, fun field hfield => ⟨hkeys field hfield, ih field hfield⟩⟩
  | @atomic v w hatomic h =>
    cases v with
    | null | undefined | int32 _ | int64 _ | double _ | array _ | document _ =>
      exact Bool.noConfusion hatomic
    | _ => exact h

/-- The equality that filters compute is the one described. -/
theorem same_iff (v w : Value) : v.same w = true ↔ v.Equals w :=
  ⟨equals_of_same, Equals.same⟩

/-- A missing value is taken for null. -/
theorem sameOrMissing_iff (value : Option Value) (expected : Value) :
    sameOrMissing value expected = true ↔ (value.getD .null).Equals expected := by
  rw [← same_iff]
  cases value <;> exact Iff.rfl

end Value

end FieldGuard
