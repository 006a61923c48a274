import FieldGuard.Proofs.Filter
import Mathlib.Algebra.Ring.Parity
import Mathlib.Data.List.Forall2

/-!
# Malformed parts under negations

What is malformed in a filter matches nothing, but what stands around it may turn that about. If
the malformed parts stand under even numbers of negations, the filter matches no record that it
would not match with anything else in their places; if under odd numbers, it matches every record
that it would match then (`accepts_of_mended`).

* `Filter.Mended`: a filter with something else in the places of some malformed parts;
* `Leans`: one verdict implies the other, in the direction given;
* `Filter.Mended.leans`: the direction turns with every negation, by induction over the three kinds
  of trees at once.
-/

namespace FieldGuard

/-! ## Mended filters -/

mutual

/-- The second filter is the first one with something else in the places of some of its malformed
parts, the number of negations above each of them being allowed, if `depth` of them stand above the
filter. -/
inductive Filter.Mended (allowed : Nat → Prop) : Nat → Filter → Filter → Prop
  | same {depth : Nat} (filter : Filter) : Filter.Mended allowed depth filter filter
  | malformed {depth : Nat} (token : String) (filter : Filter) (h : allowed depth) :
      Filter.Mended allowed depth (.invalid token) filter
  | fields {depth : Nat} {conditions conditions' : List (String × Condition)}
      (hlength : conditions.length = conditions'.length)
      (hpath : ∀ pair ∈ conditions.zip conditions', pair.1.1 = pair.2.1)
      (h : ∀ pair ∈ conditions.zip conditions',
        Condition.Mended allowed depth pair.1.2 pair.2.2) :
      Filter.Mended allowed depth (.fields conditions) (.fields conditions')
  | and {depth : Nat} {filters filters' : List Filter} (hlength : filters.length = filters'.length)
      (h : ∀ pair ∈ filters.zip filters', Filter.Mended allowed depth pair.1 pair.2) :
      Filter.Mended allowed depth (.and filters) (.and filters')
  | or {depth : Nat} {filters filters' : List Filter} (hlength : filters.length = filters'.length)
      (h : ∀ pair ∈ filters.zip filters', Filter.Mended allowed depth pair.1 pair.2) :
      Filter.Mended allowed depth (.or filters) (.or filters')
  | nor {depth : Nat} {filters filters' : List Filter} (hlength : filters.length = filters'.length)
      (h : ∀ pair ∈ filters.zip filters', Filter.Mended allowed (depth + 1) pair.1 pair.2) :
      Filter.Mended allowed depth (.nor filters) (.nor filters')
  | not {depth : Nat} {filter filter' : Filter}
      (h : Filter.Mended allowed (depth + 1) filter filter') :
      Filter.Mended allowed depth (.not filter) (.not filter')

/-- A condition with something else in the places of some of its malformed parts. -/
inductive Condition.Mended (allowed : Nat → Prop) : Nat → Condition → Condition → Prop
  | same {depth : Nat} (condition : Condition) : Condition.Mended allowed depth condition condition
  | document {depth : Nat} (expected : Document) {filter filter' : Filter}
      (h : Filter.Mended allowed depth filter filter') :
      Condition.Mended allowed depth (.document expected filter) (.document expected filter')
  | clauses {depth : Nat} {clauses clauses' : List Clause}
      (hlength : clauses.length = clauses'.length)
      (h : ∀ pair ∈ clauses.zip clauses', Clause.Mended allowed depth pair.1 pair.2) :
      Condition.Mended allowed depth (.clauses clauses) (.clauses clauses')

/-- A clause with something else in the places of some of its malformed parts. -/
inductive Clause.Mended (allowed : Nat → Prop) : Nat → Clause → Clause → Prop
  | same {depth : Nat} (clause : Clause) : Clause.Mended allowed depth clause clause
  | malformed {depth : Nat} (token : String) (fault : ClauseFault) (clause : Clause)
      (h : allowed depth) : Clause.Mended allowed depth (.invalid token fault) clause
  | all {depth : Nat} {condition condition' : Condition}
      (h : Condition.Mended allowed depth condition condition') :
      Clause.Mended allowed depth (.all condition) (.all condition')
  | elemMatch {depth : Nat} {condition condition' : Condition}
      (h : Condition.Mended allowed depth condition condition') :
      Clause.Mended allowed depth (.elemMatch condition) (.elemMatch condition')
  | and {depth : Nat} {conditions conditions' : List Condition}
      (hlength : conditions.length = conditions'.length)
      (h : ∀ pair ∈ conditions.zip conditions', Condition.Mended allowed depth pair.1 pair.2) :
      Clause.Mended allowed depth (.and conditions) (.and conditions')
  | or {depth : Nat} {conditions conditions' : List Condition}
      (hlength : conditions.length = conditions'.length)
      (h : ∀ pair ∈ conditions.zip conditions', Condition.Mended allowed depth pair.1 pair.2) :
      Clause.Mended allowed depth (.or conditions) (.or conditions')
  | nor {depth : Nat} {conditions conditions' : List Condition}
      (hlength : conditions.length = conditions'.length)
      (h : ∀ pair ∈ conditions.zip conditions',
        Condition.Mended allowed (depth + 1) pair.1 pair.2) :
      Clause.Mended allowed depth (.nor conditions) (.nor conditions')
  | not {depth : Nat} {condition condition' : Condition}
      (h : Condition.Mended allowed (depth + 1) condition condition') :
      Clause.Mended allowed depth (.not condition) (.not condition')

end

/-! ## Verdicts that lean -/

/-- The first verdict implies the second one, or the other way round if not `forward`. -/
def Leans (forward : Prop) (a b : Bool) : Prop :=
  (forward → a = true → b = true) ∧ (¬ forward → b = true → a = true)

namespace Leans

variable {α β : Type} {forward : Prop} {a b a' b' : Bool}

theorem refl (a : Bool) : Leans forward a a :=
  ⟨fun _ h => h, fun _ h => h⟩

/-- What is false implies everything. -/
theorem of_false (h : forward) (b : Bool) : Leans forward false b :=
  ⟨fun _ => Bool.noConfusion, fun hnot => absurd h hnot⟩

/-- A negation turns the direction. -/
theorem not (h : Leans (¬ forward) a b) : Leans forward (!a) (!b) := by
  obtain ⟨hforward, hbackward⟩ := h
  simp only [Leans, Bool.not_eq_true', ← Bool.not_eq_true]
  exact ⟨fun h => mt (hbackward (not_not.2 h)), fun h => mt (hforward h)⟩

theorem and (h : Leans forward a b) (h' : Leans forward a' b') :
    Leans forward (a && a') (b && b') := by
  simp only [Leans, Bool.and_eq_true]
  exact ⟨fun hforward => And.imp (h.1 hforward) (h'.1 hforward),
    fun hbackward => And.imp (h.2 hbackward) (h'.2 hbackward)⟩

theorem or (h : Leans forward a b) (h' : Leans forward a' b') :
    Leans forward (a || a') (b || b') := by
  simp only [Leans, Bool.or_eq_true]
  exact ⟨fun hforward => Or.imp (h.1 hforward) (h'.1 hforward),
    fun hbackward => Or.imp (h.2 hbackward) (h'.2 hbackward)⟩

variable {f : α → Bool} {g : β → Bool} {xs : List α} {ys : List β}

theorem all (h : List.Forall₂ (fun x y => Leans forward (f x) (g y)) xs ys) :
    Leans forward (xs.all f) (ys.all g) := by
  induction h with
  | nil => exact refl true
  | cons hfirst _ ih =>
    rw [List.all_cons, List.all_cons]
    exact hfirst.and ih

theorem any (h : List.Forall₂ (fun x y => Leans forward (f x) (g y)) xs ys) :
    Leans forward (xs.any f) (ys.any g) := by
  induction h with
  | nil => exact refl false
  | cons hfirst _ ih =>
    rw [List.any_cons, List.any_cons]
    exact hfirst.or ih

-- An induction over trees also needs to know that the elements of a list are smaller than the list.
variable [SizeOf α] (hlength : xs.length = ys.length)
  (h : ∀ pair ∈ xs.zip ys, sizeOf pair.1 < sizeOf xs → Leans forward (f pair.1) (g pair.2))

include hlength h

theorem forall₂_of_zip : List.Forall₂ (fun x y => Leans forward (f x) (g y)) xs ys :=
  List.forall₂_iff_zip.2 ⟨hlength, fun hpair =>
    h _ hpair (List.sizeOf_lt_of_mem (List.of_mem_zip hpair).1)⟩

theorem all_zip : Leans forward (xs.all f) (ys.all g) :=
  all (forall₂_of_zip hlength h)

theorem any_zip : Leans forward (xs.any f) (ys.any g) :=
  any (forall₂_of_zip hlength h)

omit hlength h

theorem testItems {f g : List Value → Bool} (h : ∀ items, Leans forward (f items) (g items))
    (value : Option Value) : Leans forward (Value.testItems value f) (Value.testItems value g) := by
  unfold Value.testItems
  split
  · exact h _
  · exact refl false

end Leans

/-! ## Mended filters lean -/

/-- Under one more negation the direction is the other one. -/
theorem not_even_iff (depth : Nat) (widens : Prop) :
    (¬ (Even depth ↔ widens)) = (Even (depth + 1) ↔ widens) := by
  rw [Nat.even_add_one]
  exact propext not_iff

section

variable {allowed : Nat → Prop} {widens : Prop}

mutual

/-- The verdicts of a filter and of a mended one lean forward where the number of negations above is
of the parity of those above the malformed parts, and backward elsewhere. -/
theorem Filter.Mended.leans (hallowed : ∀ n, allowed n → (Even n ↔ widens)) {depth : Nat}
    {filter filter' : Filter} (h : Filter.Mended allowed depth filter filter')
    (record : Document) :
    Leans (Even depth ↔ widens) (filter.accepts record) (filter'.accepts record) := by
  cases h with
  | same _ => exact .refl _
  | malformed token _ h => exact .of_false (hallowed depth h) _
  | fields hlength hpath h =>
    simp only [Filter.accepts, Filter.fieldsAccept_eq_all]
    refine .all_zip hlength fun pair hpair hsize => ?_
    rw [hpath pair hpair]
    exact (h pair hpair).leans hallowed _
  | and hlength h =>
    simp only [Filter.accepts, Filter.allAccept_eq_all]
    exact .all_zip hlength fun pair hpair _ => (h pair hpair).leans hallowed record
  | or hlength h =>
    simp only [Filter.accepts, Filter.someAccepts_eq_any]
    exact .any_zip hlength fun pair hpair _ => (h pair hpair).leans hallowed record
  | nor hlength h =>
    simp only [Filter.accepts, Filter.someAccepts_eq_any]
    refine .not (.any_zip hlength fun pair hpair _ => ?_)
    rw [not_even_iff]
    exact (h pair hpair).leans hallowed record
  | not h =>
    refine .not ?_
    rw [not_even_iff]
    exact h.leans hallowed record
termination_by sizeOf filter
decreasing_by
  all_goals simp only [Filter.fields.sizeOf_spec, Filter.and.sizeOf_spec, Filter.or.sizeOf_spec,
    Filter.nor.sizeOf_spec, Filter.not.sizeOf_spec]
  · obtain ⟨⟨path, condition⟩, other⟩ := pair
    rw [Prod.mk.sizeOf_spec] at hsize
    simp only
    omega
  all_goals omega

theorem Condition.Mended.leans (hallowed : ∀ n, allowed n → (Even n ↔ widens)) {depth : Nat}
    {condition condition' : Condition}
    (h : Condition.Mended allowed depth condition condition') (value : Option Value) :
    Leans (Even depth ↔ widens) (condition.accepts value) (condition'.accepts value) := by
  cases h with
  | same _ => exact .refl _
  | document expected h =>
    simp only [Condition.accepts]
    split
    · exact h.leans hallowed _
    · exact .refl _
  | clauses hlength h =>
    simp only [Condition.accepts, Clause.allAccept_eq_all]
    exact .all_zip hlength fun pair hpair _ => (h pair hpair).leans hallowed value
termination_by sizeOf condition

theorem Clause.Mended.leans (hallowed : ∀ n, allowed n → (Even n ↔ widens)) {depth : Nat}
    {clause clause' : Clause} (h : Clause.Mended allowed depth clause clause')
    (value : Option Value) :
    Leans (Even depth ↔ widens) (clause.accepts value) (clause'.accepts value) := by
  cases h with
  | same _ => exact .refl _
  | malformed token fault _ h => exact .of_false (hallowed depth h) _
  | all h =>
    simp only [Clause.accepts]
    exact .testItems (fun items => .all (List.forall₂_same.2 fun item _ => h.leans hallowed _)) value
  | elemMatch h =>
    simp only [Clause.accepts]
    exact .testItems (fun items => .any (List.forall₂_same.2 fun item _ => h.leans hallowed _)) value
  | and hlength h =>
    simp only [Clause.accepts, Condition.allAccept_eq_all]
    exact .all_zip hlength fun pair hpair _ => (h pair hpair).leans hallowed value
  | or hlength h =>
    simp only [Clause.accepts, Condition.someAccepts_eq_any]
    exact .any_zip hlength fun pair hpair _ => (h pair hpair).leans hallowed value
  | nor hlength h =>
    simp only [Clause.accepts, Condition.someAccepts_eq_any]
    refine .not (.any_zip hlength fun pair hpair _ => ?_)
    rw [not_even_iff]
    exact (h pair hpair).leans hallowed value
  | not h =>
    refine .not ?_
    rw [not_even_iff]
    exact h.leans hallowed value
termination_by sizeOf clause

end

end

/-- Where the malformed parts of a filter stand under even numbers of negations, whatever is put in
their places, the filter matches all the records that it matched before; where they stand under odd
numbers, it matches no other ones. -/
theorem accepts_of_mended (filter filter' : Filter) :
    (Filter.Mended Even 0 filter filter' →
        ∀ record, filter.accepts record = true → filter'.accepts record = true) ∧
      (Filter.Mended Odd 0 filter filter' →
        ∀ record, filter'.accepts record = true → filter.accepts record = true) := by
  have hzero : Even 0 := Even.zero
  refine ⟨fun h record => ?_, fun h record => ?_⟩
  · have hleans : Leans (Even 0 ↔ True) _ _ := h.leans (fun n hn => iff_true_intro hn) record
    exact hleans.1 (iff_true_intro hzero)
  · have hleans : Leans (Even 0 ↔ False) _ _ :=
      h.leans (fun n hn => iff_false_intro (Nat.not_even_iff_odd.2 hn)) record
    exact hleans.2 fun hiff => hiff.1 hzero

/-- A clause of an unknown name under two negations, and one under a single negation: with a clause
in its place, the first filter matches more records and the second one less. -/
theorem accepts_of_mended_tags :
    let unknown : Clause := .invalid "$near" .unknown
    let named : Filter := .fields [("name", .literal (.string "Ann"))]
    let tagged : Clause → Filter := fun clause =>
      .or [named, .fields [("tags", .clauses [.elemMatch (.clauses
        [.not (.clauses [.nor [.clauses [clause]]])])])]]
    let notOlder : Clause → Filter := fun clause => .not (.fields [("age", .clauses [clause])])
    let ann : Document := [("name", .string "Ann"), ("age", .int32 10)]
    let ben : Document := [("tags", .array [.string "staff"]), ("age", .int32 20)]
    (Filter.Mended Even 0 (tagged unknown) (tagged (.eq (.string "staff"))) ∧
      (tagged unknown).accepts ann = true ∧ (tagged (.eq (.string "staff"))).accepts ann = true ∧
      (tagged unknown).accepts ben = false ∧ (tagged (.eq (.string "staff"))).accepts ben = true) ∧
    (Filter.Mended Odd 0 (notOlder unknown) (notOlder (.gt (.int32 18))) ∧
      (notOlder (.gt (.int32 18))).accepts ann = true ∧ (notOlder unknown).accepts ann = true ∧
      (notOlder (.gt (.int32 18))).accepts ben = false ∧ (notOlder unknown).accepts ben = true) := by
  intro unknown named tagged notOlder ann ben
  have heven : Filter.Mended Even 0 (tagged unknown) (tagged (.eq (.string "staff"))) := by
    refine .or rfl (List.forall_mem_cons.2 ⟨.same named, List.forall_mem_singleton.2 ?_⟩)
    refine .fields rfl (by simp) (List.forall_mem_singleton.2 ?_)
    refine .clauses rfl (List.forall_mem_singleton.2 (.elemMatch ?_))
    refine .clauses rfl (List.forall_mem_singleton.2 (.not ?_))
    refine .clauses rfl (List.forall_mem_singleton.2 (.nor rfl ?_))
    refine List.forall_mem_singleton.2 (.clauses rfl (List.forall_mem_singleton.2 ?_))
    exact .malformed "$near" .unknown _ (by decide)
  have hodd : Filter.Mended Odd 0 (notOlder unknown) (notOlder (.gt (.int32 18))) := by
    refine .not (.fields rfl (by simp) (List.forall_mem_singleton.2 ?_))
    refine .clauses rfl (List.forall_mem_singleton.2 ?_)
    exact .malformed "$near" .unknown _ (by decide)
  have htagged : (tagged unknown).accepts ann = true := rfl
  have hnotOlder : (notOlder (.gt (.int32 18))).accepts ann = true := by decide
  exact ⟨⟨heven, htagged, (accepts_of_mended _ _).1 heven ann htagged, by decide, by decide⟩,
    hodd, hnotOlder, (accepts_of_mended _ _).2 hodd ann hnotOlder, by decide, by decide⟩

end FieldGuard
