import FieldGuard.Proofs.Filter.Reading
import FieldGuard.Proofs.Value.Respelling

/-!
# Clauses that compare

Equality and the four clauses of order agree with each other on values without doubles. Two of them
are comparable if both are integers, texts, moments or truth values (`Value.Comparable`), and these
are the pairs that have an order (`Value.isSome_compare?_iff`), of which the clauses then see one
outcome (`Value.Comparable.exists_compare?`). Of the other pairs no clause of order holds.

* `Value.meets`: a clause with its operand, as a filter has it;
* `Value.Less.trans`: the order without doubles;
* `Condition.accepts_none`: a missing value passes what null passes, clause by clause;
* `comparisons_coherent`: equality, and the order beside it.
-/

namespace FieldGuard

namespace Value

/-! ## Comparable values -/

/-- The values are of one kind among those that have an order, doubles apart. -/
inductive Comparable : Value → Value → Prop
  | integers {v w : Value} {m n : Int64} (hv : v.asInteger? = some m)
      (hw : w.asInteger? = some n) : Comparable v w
  | texts (s t : String) : Comparable (string s) (string t)
  | moments (m n : Int64) : Comparable (dateTime m) (dateTime n)
  | booleans (a b : Bool) : Comparable (boolean a) (boolean b)

theorem isSome_compare?_iff {v w : Value} (hv : v.DoubleFree) (hw : w.DoubleFree) :
    (compare? v w).isSome = true ↔ v.Comparable w := by
  constructor
  · intro h
    unfold compare? at h
    split at h
    all_goals
      first
      | exact .booleans _ _
      | exact .integers rfl rfl
      | exact .texts _ _
      | exact .moments _ _
      | exact hv.elim
      | exact hw.elim
      | cases h
  · intro h
    cases h with
    | integers hv hw => rw [compare?_eq_of_asInteger? hv hw, Option.isSome_some]
    | texts | moments | booleans => rfl

theorem Comparable.isOrderable {v w : Value} (h : v.Comparable w) : v.isOrderable = true := by
  cases h with
  | integers hv hw => obtain ⟨a, rfl, -⟩ | rfl := cases_of_asInteger? hv <;> rfl
  | texts | moments | booleans => rfl

/-- Comparable values have an order, which is that of equal ones if and only if they are equal. -/
theorem Comparable.exists_compare? {v w : Value} (hv : v.DoubleFree) (hw : w.DoubleFree)
    (h : v.Comparable w) : ∃ order, compare? v w = some order ∧ v.same w = (order == .eq) := by
  obtain ⟨order, horder⟩ := Option.isSome_iff_exists.1 ((isSome_compare?_iff hv hw).2 h)
  have hequal := compare?_eq_eq v w
  rw [← same_iff, horder, Option.some.injEq] at hequal
  refine ⟨order, horder, ?_⟩
  rw [Bool.eq_iff_iff, beq_iff_eq, hequal]
  exact (and_iff_right h.isOrderable).symm

/-- Numbers that are no doubles are integers. -/
theorem DoubleFree.asInteger?_ne_none {v : Value} (hv : v.DoubleFree) {x : Float}
    (h : v.asNumber? = some x) : v.asInteger? ≠ none := by
  cases v with
  | int32 _ | int64 _ => exact Option.some_ne_none _
  | double x => exact hv.elim
  | _ => cases h

theorem Less.trans {v u w : Value} (hv : v.DoubleFree) (hu : u.DoubleFree) (hw : w.DoubleFree)
    (hvu : v.Less u) (huw : u.Less w) : v.Less w := by
  cases hvu with
  | booleans =>
    cases huw with
    | integers h | numbers h => cases h
  | @integers _ _ m n hm hn hlt =>
    cases huw with
    | @integers _ _ n' k hn' hk hlt' =>
      obtain rfl : n = n' := Option.some.inj (hn.symm.trans hn')
      exact .integers hm hk (Int64.lt_trans hlt hlt')
    | numbers hx hy hdouble =>
      exact (hdouble.elim (hu.asInteger?_ne_none hx) (hw.asInteger?_ne_none hy)).elim
    | booleans | moments | texts => cases hn
  | numbers hx hy hdouble =>
    exact (hdouble.elim (hv.asInteger?_ne_none hx) (hu.asInteger?_ne_none hy)).elim
  | moments hlt =>
    cases huw with
    | moments hlt' => exact .moments (Int64.lt_trans hlt hlt')
    | integers h | numbers h => cases h
  | texts hlt =>
    cases huw with
    | texts hlt' => exact .texts (String.lt_trans hlt hlt')
    | integers h | numbers h => cases h

/-! ## Clauses -/

/-- Whether a value, which may be missing, meets the condition of one operator with its operand. -/
def meets (value : Option Value) (operator : String) (operand : Value) : Bool :=
  (Condition.ofValue (.document [(operator, operand)])).accepts value

section

variable (value : Option Value) (operand : Value)

theorem meets_eq_accepts {operator : String} (h : Filter.isOperator operator = true) :
    meets value operator operand = (Clause.ofOperand operator operand).accepts value := by
  have hoperators : Filter.hasOperators [(operator, operand)] = true := by
    simp [Filter.hasOperators, h]
  rw [meets, Condition.ofValue, if_pos hoperators, Condition.accepts, Clause.ofFields,
    Clause.ofFields, Clause.allAccept, Clause.allAccept, Bool.and_true]
  rfl

theorem meets_eq : meets value "$eq" operand = sameOrMissing value operand := by
  rw [meets_eq_accepts _ _ (by decide)]
  rfl

theorem meets_lt : meets value "$lt" operand = isOrdered value operand (·.isLT) := by
  rw [meets_eq_accepts _ _ (by decide)]
  rfl

theorem meets_lte : meets value "$lte" operand = isOrdered value operand (·.isLE) := by
  rw [meets_eq_accepts _ _ (by decide)]
  rfl

theorem meets_gt : meets value "$gt" operand = isOrdered value operand (·.isGT) := by
  rw [meets_eq_accepts _ _ (by decide)]
  rfl

theorem meets_gte : meets value "$gte" operand = isOrdered value operand (·.isGE) := by
  rw [meets_eq_accepts _ _ (by decide)]
  rfl

end

/-- The operators of order. -/
def orderings : List String :=
  ["$lt", "$lte", "$gt", "$gte"]

/-- A clause of order accepts some of the outcomes of a comparison. -/
theorem exists_meets_eq_isOrdered {operator : String} (h : operator ∈ orderings) :
    ∃ accept, ∀ value operand,
      meets value operator operand = isOrdered value operand accept := by
  simp only [orderings, List.mem_cons, List.not_mem_nil, or_false] at h
  obtain rfl | rfl | rfl | rfl := h
  · exact ⟨_, meets_lt⟩
  · exact ⟨_, meets_lte⟩
  · exact ⟨_, meets_gt⟩
  · exact ⟨_, meets_gte⟩

theorem meets_of_not_comparable {v w : Value} (hv : v.DoubleFree) (hw : w.DoubleFree)
    (h : ¬ v.Comparable w) : ∀ operator ∈ orderings, meets (some v) operator w = false := by
  intro operator hoperator
  obtain ⟨accept, hmeets⟩ := exists_meets_eq_isOrdered hoperator
  have hnone : compare? v w = none := by
    rw [← isSome_compare?_iff hv hw, Bool.not_eq_true, Option.isSome_eq_false_iff,
      Option.isNone_iff_eq_none] at h
    exact h
  rw [hmeets, isOrdered, hnone, Option.any_none]

theorem meets_of_missing (w : Value) : ∀ operator ∈ orderings, meets none operator w = false := by
  intro operator hoperator
  obtain ⟨accept, hmeets⟩ := exists_meets_eq_isOrdered hoperator
  rw [hmeets, isOrdered]

/-- Of two comparable values the first is less, equal or greater, and only one of these; a clause
that allows for equality is the strict one or equality. -/
theorem Comparable.outcomes {v w : Value} (hv : v.DoubleFree) (hw : w.DoubleFree)
    (h : v.Comparable w) :
    (["$lt", "$eq", "$gt"].countP fun operator => meets (some v) operator w) = 1 ∧
    meets (some v) "$gte" w =
      (meets (some v) "$gt" w || meets (some v) "$eq" w) ∧
    meets (some v) "$lte" w =
      (meets (some v) "$lt" w || meets (some v) "$eq" w) := by
  obtain ⟨order, horder, hsame⟩ := h.exists_compare? hv hw
  simp only [List.countP_cons, List.countP_nil, meets_lt, meets_lte, meets_gt, meets_gte, meets_eq,
    isOrdered, sameOrMissing, horder, hsame, Option.any_some]
  cases order <;> decide

theorem meets_lt_trans {v u w : Value} (hv : v.DoubleFree) (hu : u.DoubleFree) (hw : w.DoubleFree)
    (hvu : meets (some v) "$lt" u = true) (huw : meets (some u) "$lt" w = true) :
    meets (some v) "$lt" w = true := by
  have hless : ∀ x y : Value, meets (some x) "$lt" y = true ↔ x.Less y := by
    intro x y
    rw [meets_lt, isOrdered, ← compare?_eq_lt]
    rcases compare? x y with _ | ⟨⟨⟩⟩ <;> simp
  rw [hless] at hvu huw ⊢
  exact hvu.trans hv hu hw huw

end Value

/-! ## Missing values -/

mutual

/-- A missing value passes the conditions that null passes. -/
theorem Condition.accepts_none : ∀ condition : Condition,
    condition.accepts none = condition.accepts (some .null)
  | .literal _ | .document _ _ => rfl
  | .clauses clauses => Clause.allAccept_none clauses

theorem Clause.allAccept_none : ∀ clauses : List Clause,
    Clause.allAccept clauses none = Clause.allAccept clauses (some .null)
  | [] => rfl
  | clause :: rest => by
    rw [Clause.allAccept, Clause.allAccept, clause.accepts_none, Clause.allAccept_none rest]

theorem Condition.allAccept_none : ∀ conditions : List Condition,
    Condition.allAccept conditions none = Condition.allAccept conditions (some .null)
  | [] => rfl
  | condition :: rest => by
    rw [Condition.allAccept, Condition.allAccept, condition.accepts_none,
      Condition.allAccept_none rest]

theorem Condition.someAccepts_none : ∀ conditions : List Condition,
    Condition.someAccepts conditions none = Condition.someAccepts conditions (some .null)
  | [] => rfl
  | condition :: rest => by
    rw [Condition.someAccepts, Condition.someAccepts, condition.accepts_none,
      Condition.someAccepts_none rest]

theorem Clause.accepts_none : ∀ clause : Clause,
    clause.accepts none = clause.accepts (some .null)
  | .and conditions => Condition.allAccept_none conditions
  | .or conditions => Condition.someAccepts_none conditions
  | .nor conditions => congrArg not (Condition.someAccepts_none conditions)
  | .not condition => congrArg not condition.accepts_none
  | .present _ | .eq _ | .ne _ | .oneOf _ | .noneOf _ | .gt _ | .gte _ | .lt _ | .lte _ | .mod _ _
  | .contains _ | .startsWith _ | .endsWith _ | .regex _ | .all _ | .elemMatch _ | .size _
  | .invalid _ _ => rfl

end

/-! ## Coherence -/

open Value (meets orderings)

/-- Equality is an equivalence of values without doubles, and does not see how they are written. A
missing value passes what null passes. Of two comparable values one is less, equal or greater, and
only one of these; the other two clauses of order are what their names say, and being less is
transitive. Clauses of order hold of no other pair, and of no missing value. -/
theorem comparisons_coherent {v u w : Value} (hv : v.IsExact) (hu : u.IsExact) (hw : w.IsExact) :
    meets (some v) "$eq" v = true ∧
    (meets (some v) "$eq" u = true → meets (some u) "$eq" v = true) ∧
    (meets (some v) "$eq" u = true → meets (some u) "$eq" w = true →
      meets (some v) "$eq" w = true) ∧
    (∀ v' u', v.Respelled v' → u.Respelled u' →
      meets (some v) "$eq" u = meets (some v') "$eq" u') ∧
    (∀ condition : Value, (Condition.ofValue condition).accepts none =
      (Condition.ofValue condition).accepts (some .null)) ∧
    (v.Comparable u →
      (["$lt", "$eq", "$gt"].countP fun operator => meets (some v) operator u) = 1 ∧
      meets (some v) "$gte" u = (meets (some v) "$gt" u || meets (some v) "$eq" u) ∧
      meets (some v) "$lte" u = (meets (some v) "$lt" u || meets (some v) "$eq" u)) ∧
    (meets (some v) "$lt" u = true → meets (some u) "$lt" w = true →
      meets (some v) "$lt" w = true) ∧
    (¬ v.Comparable u → ∀ operator ∈ orderings, meets (some v) operator u = false) ∧
    (∀ operator ∈ orderings, meets none operator u = false) := by
  have hequal : ∀ x y : Value, meets (some x) "$eq" y = x.same y :=
    fun x => Value.meets_eq (some x)
  have hdouble := hv.doubleFree
  have hdouble' := hu.doubleFree
  refine ⟨?reflexive, ?symmetric, ?transitive, ?respelled,
    fun condition => (Condition.ofValue condition).accepts_none,
    fun h => h.outcomes hdouble hdouble',
    Value.meets_lt_trans hdouble hdouble' hw.doubleFree,
    Value.meets_of_not_comparable hdouble hdouble', Value.meets_of_missing u⟩
  all_goals simp only [hequal]
  case reflexive => exact Value.same_refl hv
  case symmetric => exact Value.same_symm hv hu
  case transitive => exact Value.same_trans hv hu hw
  case respelled => exact fun v' u' => Value.same_congr hv hu

/-- A document and the same one written in another way, and integers of both widths. -/
theorem comparisons_coherent_documents :
    let stored : Value := .document [("a", .int32 1), ("b", .array [.null])]
    let respelled : Value := .document [("b", .array [.undefined]), ("a", .int64 1)]
    let one : Value := .int32 1
    let two : Value := .int64 2
    let three : Value := .int32 3
    stored.IsExact ∧ stored.Respelled respelled ∧
      meets (some stored) "$eq" respelled = true ∧
      one.IsExact ∧ two.IsExact ∧ three.IsExact ∧ one.Comparable two ∧
      (["$lt", "$eq", "$gt"].countP fun operator => meets (some one) operator two) = 1 ∧
      meets (some one) "$lt" three = true ∧
      ¬ stored.Comparable one ∧ meets (some stored) "$gte" one = false := by
  intro stored respelled one two three
  have hstored : stored.IsExact :=
    ⟨by simp [stored, Value.DoubleFree, Value.FieldsDoubleFree, Value.ItemsDoubleFree],
      by simp [stored, Value.DistinctKeys, Value.FieldsDistinctKeys, Value.ItemsDistinctKeys]⟩
  have hone : one.IsExact := ⟨trivial, trivial⟩
  have htwo : two.IsExact := ⟨trivial, trivial⟩
  have hthree : three.IsExact := ⟨trivial, trivial⟩
  have hrespelled : stored.Respelled respelled :=
    .head (.field [] "a" [("b", .array [.null])] (.widen 1))
      (.head (.field [("a", .int64 1)] "b" [] (.item [] [] .toUndefined))
        (.single (.reorder (List.Perm.swap _ _ []))))
  have hcomparable : one.Comparable two := .integers rfl rfl
  have hincomparable : ¬ stored.Comparable one := by
    rw [← Value.isSome_compare?_iff hstored.doubleFree hone.doubleFree]
    exact Bool.false_ne_true
  obtain ⟨hrefl, -, -, hinvariant, -⟩ := comparisons_coherent hstored hstored hstored
  obtain ⟨-, -, -, -, -, houtcomes, htransitive, -⟩ := comparisons_coherent hone htwo hthree
  obtain ⟨-, -, -, -, -, -, -, hnone, -⟩ := comparisons_coherent hstored hone hone
  refine ⟨hstored, hrespelled, ?_, hone, htwo, hthree, hcomparable, (houtcomes hcomparable).1, ?_,
    hincomparable, hnone hincomparable "$gte" (by decide)⟩
  · rw [← hinvariant stored respelled .refl hrespelled]
    exact hrefl
  · exact htransitive (by decide) (by decide)

end FieldGuard
