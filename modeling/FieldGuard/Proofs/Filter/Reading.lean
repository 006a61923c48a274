import FieldGuard.Proofs.Filter
import FieldGuard.Proofs.Filter.Meaning

/-!
# Filters match what filter documents mean

Reading a filter document and applying the filter comes to what the document means, for all filter
documents and all records (`ofDocument_accepts_iff`). Each of the kinds of trees is gone through
once, given the same of its parts (`Clause.accepts_ofOperand_iff`, `Condition.accepts_ofValue_iff`,
`Filter.accepts_ofCombinator_iff`, `Filter.accepts_ofDocument_iff`); the induction over all of them
at once is on the size of the value read (`Value.describes_iff`). Reading finds the operators that
the names spell (`Filter.isOperator_iff`, `Filter.spells_iff`).
-/

namespace FieldGuard

/-! ## Operators -/

namespace Text

/-- The ASCII capitals by their codes. -/
theorem isCapital_iff (c : Char) : 'A' ≤ c ∧ c ≤ 'Z' ↔ 65 ≤ c.toNat ∧ c.toNat ≤ 90 :=
  and_congr UInt32.le_iff_toNat_le UInt32.le_iff_toNat_le

/-- Lower case moves the codes of the capitals. -/
theorem toNat_toLower (c : Char) :
    c.toLower.toNat = if 65 ≤ c.toNat ∧ c.toNat ≤ 90 then c.toNat + 32 else c.toNat := by
  unfold Char.toLower
  split
  · rename_i h
    have hcapital := (isCapital_iff c).1 ⟨h.1, h.2⟩
    rw [if_pos hcapital]
    change (c.val + 32).toNat = c.toNat + 32
    rw [UInt32.toNat_add]
    exact Nat.mod_eq_of_lt (show c.toNat + 32 < 2 ^ 32 by omega)
  · rename_i h
    rw [if_neg fun hc => h ((isCapital_iff c).2 hc)]

theorem sameButCase_iff (c d : Char) : SameButCase c d ↔ c.toLower = d.toLower := by
  rw [← Char.toNat_inj, toNat_toLower, toNat_toLower]
  constructor
  · intro h
    cases h with
    | same => rfl
    | capital h h' hd =>
      have hcapital := (isCapital_iff c).1 ⟨h, h'⟩
      rw [if_pos hcapital, if_neg (by omega), hd]
    | small h h' hc =>
      have hcapital := (isCapital_iff d).1 ⟨h, h'⟩
      rw [if_pos hcapital, if_neg (by omega), hc]
  · intro h
    by_cases hc : 65 ≤ c.toNat ∧ c.toNat ≤ 90 <;> by_cases hd : 65 ≤ d.toNat ∧ d.toNat ≤ 90
    · rw [if_pos hc, if_pos hd] at h
      obtain rfl : c = d := Char.toNat_inj.1 (Nat.add_right_cancel h)
      exact .same c
    · rw [if_pos hc, if_neg hd] at h
      obtain ⟨hleft, hright⟩ := (isCapital_iff c).2 hc
      exact .capital hleft hright h.symm
    · rw [if_neg hc, if_pos hd] at h
      obtain ⟨hleft, hright⟩ := (isCapital_iff d).2 hd
      exact .small hleft hright h
    · rw [if_neg hc, if_neg hd] at h
      obtain rfl : c = d := Char.toNat_inj.1 h
      exact .same c

end Text

namespace Filter

theorem isOperator_iff (name : String) : isOperator name = true ↔ NamesOperator name := by
  rw [isOperator, NamesOperator, beq_iff_eq]
  cases name.toList with
  | nil => simp
  | cons c rest =>
    rw [List.head?_cons, Option.some.injEq, List.cons_prefix_cons, and_iff_left List.nil_prefix,
      eq_comm]

theorem hasOperators_iff (fields : Document) :
    hasOperators fields = true ↔ (Value.document fields).UsesOperators := by
  simp only [hasOperators, List.any_eq_true, isOperator_iff]
  rfl

theorem spells_iff (token operator : String) :
    Spells token operator ↔ operatorName token = operatorName operator := by
  rw [Spells, operatorName, operatorName, String.ofList_inj, ← List.forall₂_eq_eq_eq,
    List.forall₂_map_left_iff, List.forall₂_map_right_iff]
  exact ⟨List.Forall₂.imp fun c d => (Text.sameButCase_iff c d).1,
    List.Forall₂.imp fun c d => (Text.sameButCase_iff c d).2⟩

/-- What operators written in lower case mean is found under the token in lower case. -/
theorem exists_spells_iff {token : String} {meaning : String → Prop}
    (h : ∀ operator, meaning operator → operatorName operator = operator) :
    (∃ operator, Spells token operator ∧ meaning operator) ↔ meaning (operatorName token) := by
  constructor
  · rintro ⟨operator, hspells, hmeaning⟩
    rwa [(spells_iff token operator).1 hspells, h operator hmeaning]
  · intro hmeaning
    exact ⟨operatorName token, (spells_iff _ _).2 (h _ hmeaning).symm, hmeaning⟩

end Filter

/-! ## Tests of values -/

theorem Text.hasPart_iff (part text : List Char) : hasPart part text = true ↔ part <:+: text := by
  induction text with
  | nil => simp [hasPart]
  | cons c rest ih =>
    rw [hasPart, Bool.or_eq_true, ih, List.isPrefixOf_iff_prefix, List.infix_cons_iff]

namespace Value

theorem falsy_of_isTruthy {value : Value} (h : value.isTruthy = false) : value.Falsy := by
  cases value with
  | null => exact .null
  | undefined => exact .undefined
  | boolean b =>
    obtain rfl : b = false := h
    exact .untrue
  | string text =>
    obtain rfl : text = "" := by simpa [isTruthy] using h
    exact .empty
  | int32 n | int64 n => exact .zero rfl (by simpa [isTruthy, bne] using h)
  | double x =>
    simp only [isTruthy, bne, Bool.and_eq_false_iff, Bool.not_eq_false'] at h
    exact h.elim (.zero rfl) .nan
  | _ => cases h

theorem Falsy.isTruthy {value : Value} (h : value.Falsy) : value.isTruthy = false := by
  cases h with
  | null | undefined => rfl
  | untrue => rfl
  | empty => decide
  | zero h hzero =>
    cases value with
    | int32 _ | int64 _ | double _ =>
      obtain rfl := Option.some.inj h
      simp [Value.isTruthy, bne, hzero]
    | _ => cases h
  | nan h => rw [Value.isTruthy, h, Bool.not_true, Bool.and_false]

theorem isTruthy_iff (value : Value) : value.isTruthy = true ↔ ¬ value.Falsy := by
  rw [← Bool.not_eq_false, not_iff_not]
  exact ⟨falsy_of_isTruthy, Falsy.isTruthy⟩

theorem isPresent_iff (value : Option Value) :
    isPresent value = true ↔ ∃ v, value = some v ∧ v ≠ null ∧ v ≠ undefined := by
  cases value with
  | none => simp [isPresent]
  | some v => cases v <;> simp [isPresent, isNothing]

theorem isOrdered_iff (value : Option Value) (bound : Value) (accept : Ordering → Bool) :
    isOrdered value bound accept = true ↔
      ∃ v, value = some v ∧
        (accept .lt = true ∧ v.Less bound ∨
          accept .eq = true ∧ v.isOrderable = true ∧ v.Equals bound ∨
          accept .gt = true ∧ bound.Less v) := by
  cases value with
  | none => simp [isOrdered]
  | some v =>
    have hlt := compare?_eq_lt v bound
    have heq := compare?_eq_eq v bound
    have hgt := compare?_eq_gt v bound
    simp only [isOrdered, Option.some.injEq, exists_eq_left', ← hlt, ← heq, ← hgt]
    rcases compare? v bound with _ | ⟨⟨⟩⟩ <;> simp

theorem testText_iff (value : Option Value) (test : String → Bool) :
    testText value test = true ↔ ∃ text, value = some (string text) ∧ test text = true := by
  unfold testText
  split <;> simp_all

theorem testItems_iff (value : Option Value) (test : List Value → Bool) :
    testItems value test = true ↔ ∃ items, value = some (array items) ∧ test items = true := by
  unfold testItems
  split <;> simp_all

theorem readDivision?_iff (operand : Value) (d r : Float) :
    Clause.readDivision? operand = some (d, r) ↔ operand.AsksRemainder d r := by
  constructor
  · intro h
    unfold Clause.readDivision? at h
    split at h
    · obtain ⟨d, hd, hpair⟩ := Option.map_eq_some_iff.1 h
      obtain ⟨rfl, rfl⟩ := Prod.mk.inj hpair
      exact .single hd
    · simp only [Option.bind_eq_bind, Option.bind_eq_some_iff, Option.pure_def] at h
      obtain ⟨d, hd, r, hr, hpair⟩ := h
      obtain ⟨rfl, rfl⟩ := Prod.mk.inj (Option.some.inj hpair)
      exact .both hd hr
    · cases h
    · obtain ⟨d, hd, hpair⟩ := Option.map_eq_some_iff.1 h
      obtain ⟨rfl, rfl⟩ := Prod.mk.inj hpair
      exact .divisor hd
  · intro h
    cases h with
    | divisor h =>
      cases operand with
      | array _ => cases h
      | _ => exact congrArg (Option.map (·, 0)) h
    | single h => exact congrArg (Option.map (·, 0)) h
    | both h h' => simp [Clause.readDivision?, h, h']

theorem readSize?_iff (operand : Value) (count : Nat) :
    Clause.readSize? operand = some count ↔ operand.AsksCount count := by
  unfold AsksCount
  cases h : operand.asNumber? with
  | none => simp [Clause.readSize?, h]
  | some size => simp [Clause.readSize?, h, and_assoc]

end Value

theorem Condition.ofItems_eq_map (items : List Value) :
    ofItems items = items.map ofValue := by
  induction items with
  | nil => rfl
  | cons item rest ih => rw [ofItems, ih, List.map_cons]

/-! ## Clauses -/

namespace Clause

section

variable (token : String) (operand : Value) (value : Option Value)

theorem accepts_overText_iff (make : String → Clause) :
    (overText token operand make).accepts value = true ↔
      ∃ text, operand = .string text ∧ (make text).accepts value = true := by
  cases operand <;> simp [overText, Clause.accepts]

theorem accepts_overValues_iff (make : List Value → Clause) :
    (overValues token operand make).accepts value = true ↔
      ∃ values, operand = .array values ∧ (make values).accepts value = true := by
  cases operand <;> simp [overValues, Clause.accepts]

theorem itemCondition_eq (condition : Condition) :
    itemCondition operand condition =
      if operand.UsesOperators then condition else .literal operand := by
  cases operand with
  | document fields => simp only [itemCondition, Filter.hasOperators_iff]
  | _ => rfl

theorem accepts_overList_iff (make : List Condition → Clause) :
    (overList token operand (Condition.itemsOf operand) make).accepts value = true ↔
      ∃ items, operand = .array items ∧
        (make (items.map Condition.ofValue)).accepts value = true := by
  cases operand <;> simp [overList, Clause.accepts, Condition.itemsOf, Condition.ofItems_eq_map]

end

theorem accepts_ofOperand_iff (token : String) (operand : Value)
    (hwhole : ∀ value, (Condition.ofValue operand).accepts value = true ↔ operand.Admits value)
    (hitems : ∀ items, operand = .array items → ∀ item ∈ items, ∀ value,
      (Condition.ofValue item).accepts value = true ↔ item.Admits value) (value : Option Value) :
    (ofOperand token operand).accepts value = true ↔ operand.Passes token value := by
  have hitem : ∀ item,
      (itemCondition operand (Condition.ofValue operand)).accepts (some item) = true ↔
        if operand.UsesOperators then operand.Admits (some item) else item.Equals operand := by
    intro item
    rw [itemCondition_eq]
    split
    · exact hwhole _
    · exact Value.same_iff _ _
  have hlist : ∀ items, operand = .array items → ∀ item ∈ items,
      ((Condition.ofValue item).accepts value = true ↔ item.Admits value) :=
    fun items h item hitem => hitems items h item hitem value
  rw [ofOperand, Value.Passes]
  refine Iff.trans ?_ (Filter.exists_spells_iff fun operator hmeaning => ?_).symm
  case refine_2 =>
    split at hmeaning
    case h_22 => exact hmeaning.elim
    all_goals rfl
  fun_cases make token operand (Condition.ofValue operand) (Condition.itemsOf operand)
  case case1 h =>
    simp only [h, Clause.accepts]
    rw [beq_iff_eq, Bool.eq_iff_iff, Value.isPresent_iff, Value.isTruthy_iff]
  case case2 h => simp only [h, Clause.accepts, Value.sameOrMissing_iff]
  case case3 h =>
    simp only [h, Clause.accepts, Bool.not_eq_true', ← Bool.not_eq_true, Value.sameOrMissing_iff]
  case case4 h =>
    simp only [h, accepts_overValues_iff, Clause.accepts, List.any_eq_true, Value.sameOrMissing_iff]
  case case5 h =>
    simp only [h, accepts_overValues_iff, Clause.accepts, Bool.not_eq_true', List.any_eq_false,
      Value.sameOrMissing_iff]
  case case6 h | case7 h | case8 h | case9 h => simp [h, Clause.accepts, Value.isOrdered_iff]
  case case10 h d r hd hread =>
    have hzero : (d == 0) = false := by simpa [bne] using hd
    simp [h, Clause.accepts, ← Value.readDivision?_iff, hread, hzero, Option.any_eq_true]
  case case11 h d r hd hread =>
    have hzero : (d == 0) = true := by simpa [bne] using hd
    simp [h, Clause.accepts, ← Value.readDivision?_iff, hread, hzero]
  case case12 h hread => simp [h, Clause.accepts, ← Value.readDivision?_iff, hread]
  case case13 h =>
    simp [h, accepts_overText_iff, Clause.accepts, Value.testText_iff, Text.contains,
      Text.hasPart_iff]
  case case14 h =>
    simp [h, accepts_overText_iff, Clause.accepts, Value.testText_iff, Text.startsWith]
  case case15 h =>
    simp [h, accepts_overText_iff, Clause.accepts, Value.testText_iff, Text.endsWith]
  case case16 h source pattern hpattern =>
    simp [h, Clause.accepts, Value.testText_iff, hpattern]
  case case17 h source hpattern => simp [h, Clause.accepts, hpattern]
  case case18 h hother =>
    simp only [h, Clause.accepts, Bool.false_eq_true, false_iff]
    rintro ⟨source, _, _, hsource, _⟩
    exact hother source hsource
  case case19 h => simp only [h, Clause.accepts, Value.testItems_iff, List.all_eq_true, hitem]
  case case20 h => simp only [h, Clause.accepts, Value.testItems_iff, List.any_eq_true, hitem]
  case case21 h count hcount =>
    simp [h, Clause.accepts, Value.testItems_iff, ← Value.readSize?_iff, hcount, @eq_comm _ count]
  case case22 h hcount => simp [h, Clause.accepts, ← Value.readSize?_iff, hcount]
  case case23 h =>
    simp only [h, accepts_overList_iff, Clause.accepts, Condition.allAccept_eq_all, List.all_map,
      List.all_eq_true, Function.comp_apply, exists_prop]
    exact exists_congr fun items => and_congr_right fun h => forall₂_congr (hlist items h)
  case case24 h =>
    simp only [h, accepts_overList_iff, Clause.accepts, Condition.someAccepts_eq_any, List.any_map,
      List.any_eq_true, Function.comp_apply, exists_prop]
    exact exists_congr fun items => and_congr_right fun h => exists_congr fun item =>
      and_congr_right (hlist items h item)
  case case25 h =>
    simp only [h, accepts_overList_iff, Clause.accepts, Condition.someAccepts_eq_any, List.any_map,
      Bool.not_eq_true', List.any_eq_false, Function.comp_apply, exists_prop]
    exact exists_congr fun items => and_congr_right fun h => forall₂_congr fun item hitem =>
      not_congr (hlist items h item hitem)
  case case26 h =>
    simp only [h, Clause.accepts, Bool.not_eq_true', ← Bool.not_eq_true, hwhole]
  case case27 => simp only [Clause.accepts, Bool.false_eq_true]

end Clause

/-! ## Filters -/

namespace Filter

theorem accepts_assemble (conditions : List (String × Condition)) (combinators : List Filter)
    (record : Document) :
    (assemble conditions combinators).accepts record =
      ((fields conditions).accepts record && combinators.all (·.accepts record)) := by
  have hall :
      (if conditions.isEmpty then combinators else fields conditions :: combinators).all
          (·.accepts record) =
        ((fields conditions).accepts record && combinators.all (·.accepts record)) := by
    split
    case isTrue h =>
      rw [List.isEmpty_iff.1 h]
      rfl
    case isFalse => rw [List.all_cons]
  fun_cases assemble conditions combinators
  case case1 h => rw [List.isEmpty_iff.1 h, List.all_nil, Bool.and_true]
  case case2 filter _ h => rw [← hall, h, List.all_cons, List.all_nil, Bool.and_true]
  case case3 => rw [← hall, Filter.accepts, allAccept_eq_all]

theorem ofItems_eq_map (token : String) (items : List Value) :
    ofItems token items = items.map (ofItem token) := by
  induction items with
  | nil => rfl
  | cons item rest ih => rw [ofItems, ih, List.map_cons]

theorem accepts_ofDocument_iff (d record : Document) :
    (ofDocument d).accepts record = true ↔
      ∀ field ∈ d,
        if NamesOperator field.1 then (ofCombinator field.1 field.2).accepts record = true
        else ¬ field.2.Falsy →
          (Condition.ofValue field.2).accepts (Document.lookup? record field.1) = true := by
  rw [ofDocument, accepts_assemble]
  simp only [Filter.accepts, fieldsAccept_eq_all, Bool.and_eq_true]
  induction d with
  | nil => simp [conditionsOf, combinatorsOf]
  | cons field rest ih =>
    obtain ⟨key, value⟩ := field
    rw [List.forall_mem_cons, ← ih, conditionsOf, combinatorsOf, ← Value.isTruthy_iff]
    by_cases hkey : NamesOperator key
    · simp [hkey, (isOperator_iff key).2 hkey, and_left_comm]
    · have hplain : isOperator key = false := by rwa [← Bool.not_eq_true, isOperator_iff]
      cases value.isTruthy
      · simp [hkey, hplain]
      · simp [hkey, hplain, and_assoc]

theorem accepts_ofCombinator_iff (token : String) (operand : Value) (record : Document)
    (hwhole : ∀ d, operand = .document d →
      ((ofDocument d).accepts record = true ↔ operand.Describes record))
    (hitems : ∀ items, operand = .array items → ∀ item ∈ items,
      ((ofItem token item).accepts record = true ↔ item.Describes record)) :
    (ofCombinator token operand).accepts record = true ↔ operand.Combines token record := by
  rw [Value.Combines]
  refine Iff.trans ?_ (exists_spells_iff fun operator hmeaning => ?_).symm
  case refine_2 =>
    split at hmeaning
    case h_5 => exact hmeaning.elim
    all_goals rfl
  fun_cases ofCombinator token operand
  case case1 d h =>
    rw [← ofDocument]
    simp [h, Filter.accepts, ← hwhole]
  case case2 d h =>
    split
    all_goals simp_all [Filter.accepts]
  case case3 items h =>
    simp only [h, Filter.accepts, allAccept_eq_all, ofItems_eq_map, List.all_map, List.all_eq_true,
      Function.comp_apply, exists_prop, Value.array.injEq, exists_eq_left']
    exact forall₂_congr (hitems items rfl)
  case case4 items h =>
    simp only [h, Filter.accepts, someAccepts_eq_any, ofItems_eq_map, List.any_map,
      List.any_eq_true, Function.comp_apply, exists_prop, Value.array.injEq, exists_eq_left']
    exact exists_congr fun item => and_congr_right (hitems items rfl item)
  case case5 items h =>
    simp only [h, Filter.accepts, someAccepts_eq_any, ofItems_eq_map, List.any_map,
      Bool.not_eq_true', List.any_eq_false, Function.comp_apply, exists_prop, Value.array.injEq,
      exists_eq_left']
    exact forall₂_congr fun item hitem => not_congr (hitems items rfl item hitem)
  case case6 items hand hor hnor =>
    split
    all_goals simp_all [Filter.accepts]
  case case7 hdocument harray =>
    split
    all_goals simp_all [Filter.accepts]

end Filter

/-! ## Conditions -/

theorem Clause.ofFields_eq_map (fields : List (String × Value)) :
    ofFields fields = fields.map fun field => ofOperand field.1 field.2 := by
  induction fields with
  | nil => rfl
  | cons field rest ih =>
    rw [ofFields, ih, List.map_cons]
    rfl

/-- Only documents are equal to a document. -/
theorem Value.sameOrMissing_document {value : Option Value} (h : ∀ d, value ≠ some (.document d))
    (d : Document) : sameOrMissing value (.document d) = false := by
  cases value with
  | none => rfl
  | some v =>
    cases v with
    | document e => exact absurd rfl (h e)
    | _ => rfl

theorem Condition.accepts_ofValue_iff (condition : Value)
    (hwhole : ∀ d, condition = .document d → ∀ record,
      (Filter.ofDocument d).accepts record = true ↔ condition.Describes record)
    (hfields : ∀ d, condition = .document d → ∀ field ∈ d, ∀ value,
      (Clause.ofOperand field.1 field.2).accepts value = true ↔ field.2.Passes field.1 value)
    (value : Option Value) :
    (Condition.ofValue condition).accepts value = true ↔ condition.Admits value := by
  fun_cases ofValue condition
  case case1 d h =>
    rw [Value.Admits, if_pos ((Filter.hasOperators_iff d).1 h)]
    simp only [Condition.accepts, Clause.allAccept_eq_all, Clause.ofFields_eq_map, List.all_map,
      List.all_eq_true, Function.comp_apply]
    exact forall₂_congr fun field hfield => hfields d rfl field hfield value
  case case2 d h =>
    rw [Value.Admits, if_neg fun hoperators => h ((Filter.hasOperators_iff d).2 hoperators)]
    simp only [Condition.accepts]
    split
    · rename_i inner
      simp only [Option.some.injEq, Value.document.injEq, exists_eq_left']
      exact hwhole d rfl inner
    · rename_i hother
      rw [Value.sameOrMissing_document hother]
      refine iff_of_false Bool.noConfusion ?_
      rintro ⟨inner, hinner, -⟩
      exact hother inner hinner
  case case3 h =>
    rw [Value.Admits.eq_def, Condition.accepts]
    split
    · exact absurd rfl (h _)
    · exact Value.sameOrMissing_iff _ _

/-! ## All together -/

mutual

theorem Value.describes_iff (token : String) (filter : Value) (record : Document) :
    (Filter.ofItem token filter).accepts record = true ↔ filter.Describes record := by
  cases hfilter : filter with
  | document d =>
    rw [Value.Describes]
    refine (Filter.accepts_ofDocument_iff d record).trans (forall₂_congr fun field hfield => ?_)
    split
    · exact Value.combines_iff field.1 field.2 record
    · exact imp_congr_right fun _ => Value.admits_iff field.2 _
  | _ => simp [Value.Describes, Filter.ofItem, Filter.accepts]
termination_by (sizeOf filter, 0)
decreasing_by
  all_goals
    subst_vars
    exact .left _ _ (Value.sizeOf_lt_of_mem_fields ‹_›)

theorem Value.combines_iff (token : String) (operand : Value) (record : Document) :
    (Filter.ofCombinator token operand).accepts record = true ↔ operand.Combines token record := by
  refine Filter.accepts_ofCombinator_iff token operand record ?_ ?_
  · rintro d rfl
    exact Value.describes_iff token (.document d) record
  · exact fun items h item hitem => Value.describes_iff token item record
termination_by (sizeOf operand, 1)
decreasing_by
  all_goals subst_vars
  · exact .right _ (by decide)
  · exact .left _ _ (Value.sizeOf_lt_of_mem_items ‹_›)

theorem Value.admits_iff (condition : Value) (value : Option Value) :
    (Condition.ofValue condition).accepts value = true ↔ condition.Admits value := by
  refine Condition.accepts_ofValue_iff condition ?_ ?_ value
  · rintro d rfl record
    exact Value.describes_iff "" (.document d) record
  · exact fun d h field hfield value => Value.passes_iff field.1 field.2 value
termination_by (sizeOf condition, 1)
decreasing_by
  all_goals subst_vars
  · exact .right _ (by decide)
  · exact .left _ _ (Value.sizeOf_lt_of_mem_fields ‹_›)

theorem Value.passes_iff (token : String) (operand : Value) (value : Option Value) :
    (Clause.ofOperand token operand).accepts value = true ↔ operand.Passes token value := by
  refine Clause.accepts_ofOperand_iff token operand ?_ ?_ value
  · exact fun value => Value.admits_iff operand value
  · exact fun items h item hitem value => Value.admits_iff item value
termination_by (sizeOf operand, 2)
decreasing_by
  · exact .right _ (by decide)
  · subst_vars
    exact .left _ _ (Value.sizeOf_lt_of_mem_items ‹_›)

end

/-- A filter read from a document matches a record exactly if the document describes it. -/
theorem ofDocument_accepts_iff (filter record : Document) :
    (Filter.ofDocument filter).accepts record = true ↔ (Value.document filter).Describes record :=
  Value.describes_iff "" (.document filter) record

end FieldGuard
