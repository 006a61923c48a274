import FieldGuard.Proofs.Value.Equality
import FieldGuard.Value.Order
import Mathlib.Order.Defs.LinearOrder

/-!
# The order of values

The order of two values is the reverse of that of the values exchanged (`Value.swap_compare?`), for
doubles too (`Value.swap_compareDouble`): a double that is less than another one is not greater, and
NaN has no order with anything. So sorting never takes both of two values for the smaller one
(`Value.swap_sortOrder`).

Truth values, numbers, moments and texts are less than others of their kind (`Value.Less`), and an
integer is less than a double if it is when rounded to one; values of these kinds that are equal are
of the same rank (`Value.compare?_eq_lt`, `Value.compare?_eq_eq`).
-/

namespace FieldGuard

/-! ## Doubles -/

section

open Float.Model

theorem swap_compareUnpacked (a b : UnpackedFloat) :
    (a.compare b).map Ordering.swap = b.compare a := by
  -- The sizes of two numbers of one sign are ordered by exponent first.
  have hsize : ∀ (e e' : Int) (m m' : Nat),
      ((compare e e').then (compare m m')).swap = (compare e' e).then (compare m' m) := by
    intro e e' m m'
    rw [Ordering.swap_then, ← Std.OrientedOrd.eq_swap, ← Std.OrientedOrd.eq_swap]
  cases a with
  | notANumber => cases b <;> rfl
  | infinity sign =>
    cases b with
    | infinity sign' => cases sign <;> cases sign' <;> rfl
    | _ => cases sign <;> rfl
  | zero sign =>
    cases b with
    | infinity sign' => cases sign' <;> rfl
    | finite sign' m' e' hpos' => cases sign' <;> rfl
    | _ => rfl
  | finite sign m e hpos =>
    cases b with
    | infinity sign' => cases sign <;> cases sign' <;> rfl
    | finite sign' m' e' hpos' =>
      cases sign <;> cases sign' <;>
        first
        | rfl
        | exact congrArg some (hsize e e' m m')
        | exact congrArg (fun size => some size.swap) (hsize e e' m m')
    | _ => cases sign <;> rfl

end

theorem lt_iff_compareUnpacked (a b : Float) :
    a < b ↔ a.toModel.unpack.compare b.toModel.unpack = some .lt := by
  have hlt : a < b ↔ (a.toModel.unpack.compare b.toModel.unpack == some .lt) = true :=
    decide_eq_true_iff
  rw [hlt, beq_iff_eq]

theorem beq_iff_compareUnpacked (a b : Float) :
    (a == b) = true ↔ a.toModel.unpack.compare b.toModel.unpack = some .eq := by
  have hbeq : (a == b) = (a.toModel.unpack.compare b.toModel.unpack == some .eq) := rfl
  rw [hbeq, beq_iff_eq]

namespace Value

theorem compareDouble_eq_compareUnpacked (a b : Float) :
    compareDouble a b = a.toModel.unpack.compare b.toModel.unpack := by
  have hswap := swap_compareUnpacked a.toModel.unpack b.toModel.unpack
  simp only [compareDouble, lt_iff_compareUnpacked, beq_iff_compareUnpacked, ← hswap]
  rcases a.toModel.unpack.compare b.toModel.unpack with _ | ⟨⟨⟩⟩ <;> rfl

theorem swap_compareDouble (a b : Float) :
    (compareDouble a b).map Ordering.swap = compareDouble b a := by
  rw [compareDouble_eq_compareUnpacked, compareDouble_eq_compareUnpacked, swap_compareUnpacked]

/-! ## Values -/

theorem swap_compare? (a b : Value) : (compare? a b).map Ordering.swap = compare? b a := by
  cases a <;> cases b <;>
    first
    | rfl
    | exact swap_compareDouble _ _
    | exact congrArg some Std.OrientedOrd.eq_swap.symm

theorem swap_sortOrder (a b : Option Value) : (sortOrder a b).swap = sortOrder b a := by
  cases a with
  | none => cases b <;> rfl
  | some x =>
    cases b with
    | none => rfl
    | some y =>
      rw [sortOrder, sortOrder, ← swap_compare? x y]
      cases compare? x y <;> rfl

/-! ## What the order is -/

/-- Whether values of the kind have an order. -/
def isOrderable : Value → Bool
  | boolean _ | int32 _ | int64 _ | double _ | dateTime _ | string _ => true
  | _ => false

/-- The first value is less than the second one. -/
inductive Less : Value → Value → Prop
  | booleans : Less (boolean false) (boolean true)
  | integers {v w : Value} {m n : Int64} (hv : v.asInteger? = some m) (hw : w.asInteger? = some n)
      (h : m < n) : Less v w
  | numbers {v w : Value} {x y : Float} (hv : v.asNumber? = some x) (hw : w.asNumber? = some y)
      (hdouble : v.asInteger? = none ∨ w.asInteger? = none) (h : x < y) : Less v w
  | moments {m n : Int64} (h : m < n) : Less (dateTime m) (dateTime n)
  | texts {s t : String} (h : s < t) : Less (string s) (string t)

theorem toInt64_lt_toInt64 (a b : Int32) : a.toInt64 < b.toInt64 ↔ a < b := by
  rw [Int64.lt_iff_toInt_lt, Int32.toInt_toInt64, Int32.toInt_toInt64, Int32.lt_iff_toInt_lt]

theorem compareDouble_eq_lt (x y : Float) : compareDouble x y = some .lt ↔ x < y := by
  rw [compareDouble_eq_compareUnpacked, lt_iff_compareUnpacked]

theorem compareDouble_eq_eq (x y : Float) : compareDouble x y = some .eq ↔ (x == y) = true := by
  rw [compareDouble_eq_compareUnpacked, beq_iff_compareUnpacked]

theorem less_of_compare? {v w : Value} (h : compare? v w = some .lt) : Less v w := by
  cases v with
  | boolean a =>
    cases w with
    | boolean b => cases a <;> cases b <;> first | exact .booleans | cases h
    | _ => cases h
  | int32 a =>
    cases w with
    | int32 b =>
      have hlt : a < b := Std.compare_eq_lt.1 (Option.some.inj h)
      exact .integers rfl rfl ((toInt64_lt_toInt64 a b).2 hlt)
    | int64 b => exact .integers rfl rfl (Std.compare_eq_lt.1 (Option.some.inj h))
    | double y => exact .numbers rfl rfl (.inr rfl) ((compareDouble_eq_lt _ _).1 h)
    | _ => cases h
  | int64 a =>
    cases w with
    | int32 b | int64 b => exact .integers rfl rfl (Std.compare_eq_lt.1 (Option.some.inj h))
    | double y => exact .numbers rfl rfl (.inr rfl) ((compareDouble_eq_lt _ _).1 h)
    | _ => cases h
  | double x =>
    cases w with
    | int32 b | int64 b | double y =>
      exact .numbers rfl rfl (.inl rfl) ((compareDouble_eq_lt _ _).1 h)
    | _ => cases h
  | dateTime m =>
    cases w with
    | dateTime n => exact .moments (Std.compare_eq_lt.1 (Option.some.inj h))
    | _ => cases h
  | string s =>
    cases w with
    | string t => exact .texts (compareOfLessAndEq_eq_lt.1 (Option.some.inj h))
    | _ => cases h
  | _ => cases h

theorem compare?_eq_of_asInteger? {v w : Value} {m n : Int64} (hv : v.asInteger? = some m)
    (hw : w.asInteger? = some n) : compare? v w = some (compare m n) := by
  obtain ⟨a, rfl, rfl⟩ | rfl := cases_of_asInteger? hv <;>
    obtain ⟨b, rfl, rfl⟩ | rfl := cases_of_asInteger? hw
  · have hcompare : compareOfLessAndEq a b = compareOfLessAndEq a.toInt64 b.toInt64 := by
      simp only [compareOfLessAndEq, toInt64_lt_toInt64, toInt64_inj]
    exact congrArg some hcompare
  all_goals rfl

theorem compare?_eq_of_asNumber? {v w : Value} {x y : Float} (hv : v.asNumber? = some x)
    (hw : w.asNumber? = some y) (hdouble : v.asInteger? = none ∨ w.asInteger? = none) :
    compare? v w = compareDouble x y := by
  cases v with
  | int32 a | int64 a =>
    obtain rfl := Option.some.inj hv
    cases w with
    | double b =>
      obtain rfl := Option.some.inj hw
      rfl
    | int32 b | int64 b => cases hdouble <;> contradiction
    | _ => cases hw
  | double a =>
    obtain rfl := Option.some.inj hv
    cases w with
    | int32 b | int64 b | double b =>
      obtain rfl := Option.some.inj hw
      rfl
    | _ => cases hw
  | _ => cases hv

theorem Less.compare? {v w : Value} (h : Less v w) : compare? v w = some .lt := by
  cases h with
  | booleans => rfl
  | integers hv hw h => rw [compare?_eq_of_asInteger? hv hw, Std.compare_eq_lt.2 h]
  | numbers hv hw hdouble h =>
    rw [compare?_eq_of_asNumber? hv hw hdouble, (compareDouble_eq_lt _ _).2 h]
  | moments h => exact congrArg some (Std.compare_eq_lt.2 h)
  | texts h => exact congrArg some (compareOfLessAndEq_eq_lt.2 h)

theorem compare?_eq_lt (v w : Value) : compare? v w = some .lt ↔ Less v w :=
  ⟨less_of_compare?, Less.compare?⟩

theorem compare?_eq_gt (v w : Value) : compare? v w = some .gt ↔ Less w v := by
  rw [← compare?_eq_lt, ← swap_compare? v w]
  rcases compare? v w with _ | ⟨⟨⟩⟩ <;> simp

theorem compare?_eq_eq (v w : Value) :
    compare? v w = some .eq ↔ v.isOrderable = true ∧ v.Equals w := by
  rw [← same_iff]
  cases v with
  | boolean a | int32 a | int64 a | double a | dateTime a | string a =>
    cases w <;> simp [compare?, same, identical, isOrderable, compareDouble_eq_eq]
  | _ =>
    refine iff_of_false (fun h => ?_) fun h => ?_
    · cases h
    · cases h.1

end Value

end FieldGuard
