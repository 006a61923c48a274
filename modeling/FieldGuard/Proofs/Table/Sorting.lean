import FieldGuard.Proofs.Table
import FieldGuard.Proofs.Value.Order
import Mathlib.Data.List.Chain
import Mathlib.Data.List.Infix
import Mathlib.Order.WithBot

/-!
# What sorted selections look like

Sorting compares values of which some have no order and count as equal. This need not be transitive:
a value without order between two others hides that they are the wrong way round. What comes out is
known if few entries are sorted, or if the comparison is transitive on all of them (`Sorting`). Then
neighbours are in order always (`Sorting.isChain_sort`), and entries further apart as far as the
comparison is transitive on those from the one to the other (`select_sorted`).

* `SortKey.IsConsistent`: the comparison is transitive on some entries, as it is if a rank gives the
  order of their values (`SortKey.isConsistent_of_rank`);
* `Sorting.pairwise_sort`: two elements change places only if the later one is smaller.
-/

namespace FieldGuard

/-! ## Sorts of few elements or by consistent comparisons -/

namespace Sorting

variable {α : Type} {smaller : α → α → Bool}

theorem isChain_insertLast (hasymm : ∀ a b, smaller a b = true → smaller b a = false) (x : α)
    {sorted : List α} (h : sorted.IsChain fun later earlier => smaller later earlier = false) :
    (insertLast smaller x sorted).IsChain fun later earlier => smaller later earlier = false := by
  induction sorted with
  | nil => exact .singleton x
  | cons y rest ih =>
    unfold insertLast
    split
    · rename_i hsmaller
      have hyx : smaller y x = false := hasymm _ _ hsmaller
      cases rest with
      | nil => exact List.isChain_cons_cons.2 ⟨hyx, .singleton x⟩
      | cons z rest =>
        obtain ⟨hyz, hrest⟩ := List.isChain_cons_cons.1 h
        have hinserted := ih hrest
        by_cases hxz : smaller x z = true
        · rw [insertLast, if_pos hxz] at hinserted ⊢
          exact List.isChain_cons_cons.2 ⟨hyz, hinserted⟩
        · rw [insertLast, if_neg hxz] at hinserted ⊢
          exact List.isChain_cons_cons.2 ⟨hyx, hinserted⟩
    · rename_i hsmaller
      exact List.isChain_cons_cons.2 ⟨eq_false_of_ne_true hsmaller, h⟩

/-- No element is smaller than the one before it. -/
theorem isChain_insertionSort (hasymm : ∀ a b, smaller a b = true → smaller b a = false)
    (xs : List α) :
    (insertionSort smaller xs).IsChain fun earlier later => smaller later earlier = false :=
  List.isChain_reverse.1 <| reverse_insertionSort_induct .nil fun x _ _ _ hsorted =>
    isChain_insertLast hasymm x hsorted

section

variable (sorting : Sorting α) {xs : List α} (h : xs.length ≤ 20 ∨ IsConsistent smaller xs)

include h

theorem isChain_sort (hasymm : ∀ a b, smaller a b = true → smaller b a = false) :
    (sorting.sort smaller xs).IsChain fun earlier later => smaller later earlier = false := by
  rcases h with hshort | hconsistent
  · rw [sorting.short hshort]
    exact isChain_insertionSort hasymm xs
  · exact (sorting.ordered hconsistent).isChain

theorem pairwise_sort :
    (sorting.sort smaller xs).Pairwise fun earlier later =>
      [earlier, later].Sublist xs ∨ smaller earlier later = true := by
  rcases h with hshort | hconsistent
  · rw [sorting.short hshort]
    exact pairwise_insertionSort xs
  · exact sorting.stable hconsistent

end

end Sorting

/-! ## Sort keys -/

namespace SortKey

variable (key : SortKey)

/-- The value that an entry is sorted by. -/
def value? (entry : Entry) : Option Value :=
  Document.lookup? entry.record key.field

/-- Whether one value goes after another one, being greater, or less if the greatest comes first. -/
def IsAfter (x y : Value) : Prop :=
  Value.compare? x y = some (match key.direction with | .ascending => .gt | .descending => .lt)

/-- Leaving two entries in their order is transitive on some entries. -/
def IsConsistent (entries : List Entry) : Prop :=
  ∀ a ∈ entries, ∀ b ∈ entries, ∀ c ∈ entries,
    key.isBefore b.record a.record = false → key.isBefore c.record b.record = false →
      key.isBefore c.record a.record = false

theorem isBefore_eq (a b : Entry) :
    key.isBefore a.record b.record = match key.direction with
      | .ascending => (Value.sortOrder (key.value? a) (key.value? b)).isLT
      | .descending => (Value.sortOrder (key.value? b) (key.value? a)).isLT := by
  rw [isBefore, ← Value.swap_sortOrder (key.value? a), value?, value?]
  cases key.direction <;>
    cases Value.sortOrder (Document.lookup? a.record key.field)
      (Document.lookup? b.record key.field) <;> rfl

theorem isBefore_asymm (a b : Entry) (h : key.isBefore a.record b.record = true) :
    key.isBefore b.record a.record = false := by
  rw [isBefore_eq, ← Value.swap_sortOrder (key.value? a)] at h ⊢
  revert h
  cases key.direction <;> cases Value.sortOrder (key.value? a) (key.value? b) <;> decide

theorem isConsistent_isBefore {entries : List Entry} (h : key.IsConsistent entries) :
    Sorting.IsConsistent (fun a b => key.isBefore a.record b.record) entries :=
  ⟨fun a _ b _ => key.isBefore_asymm a b, h⟩

theorem not_isAfter {a b : Entry} {x y : Value} (ha : key.value? a = some x)
    (hb : key.value? b = some y) (h : key.isBefore b.record a.record = false) :
    ¬ key.IsAfter x y := by
  intro hafter
  rw [isBefore_eq, ← Value.swap_sortOrder (key.value? a), ha, hb, Value.sortOrder, hafter] at h
  revert h
  cases key.direction <;> decide

/-- The rank of an entry's value; a missing value ranks below all others. -/
def rankOf {β : Type} (rank : Value → β) (entry : Entry) : WithBot β :=
  (key.value? entry).map rank

theorem isLT_sortOrder_eq_false_iff {β : Type} [LinearOrder β] {rank : Value → β} {a b : Entry}
    (h : ∀ x y, key.value? b = some x → key.value? a = some y →
      Value.compare? x y = some (compare (rank x) (rank y))) :
    (Value.sortOrder (key.value? b) (key.value? a)).isLT = false ↔
      key.rankOf rank a ≤ key.rankOf rank b := by
  rw [← Bool.not_eq_true, ← not_lt, not_iff_not]
  cases hy : key.value? a with
  | none =>
    have hbot : key.rankOf rank a = ⊥ := congrArg (Option.map rank) hy
    rw [hbot]
    cases key.value? b <;> simp [Value.sortOrder]
  | some y =>
    have hsome : key.rankOf rank a = rank y := congrArg (Option.map rank) hy
    rw [hsome]
    cases hx : key.value? b with
    | none =>
      have hbot : key.rankOf rank b = ⊥ := congrArg (Option.map rank) hx
      simp [hbot, Value.sortOrder]
    | some x =>
      have hsome : key.rankOf rank b = rank x := congrArg (Option.map rank) hx
      rw [hsome, WithBot.coe_lt_coe, Value.sortOrder, h x y hx hy, Option.getD_some,
        Ordering.isLT_iff_eq_lt, compare_lt_iff_lt]

/-- Values whose order is that of their ranks are compared consistently. -/
theorem isConsistent_of_rank {β : Type} [LinearOrder β] (rank : Value → β) {entries : List Entry}
    (h : ∀ a ∈ entries, ∀ b ∈ entries, ∀ x y, key.value? a = some x → key.value? b = some y →
      Value.compare? x y = some (compare (rank x) (rank y))) : key.IsConsistent entries := by
  have hrank : ∀ a ∈ entries, ∀ b ∈ entries,
      (Value.sortOrder (key.value? b) (key.value? a)).isLT = false ↔
        key.rankOf rank a ≤ key.rankOf rank b := fun a ha b hb =>
    key.isLT_sortOrder_eq_false_iff (h b hb a ha)
  intro a ha b hb c hc
  simp only [isBefore_eq]
  cases key.direction with
  | ascending =>
    dsimp only
    rw [hrank a ha b hb, hrank b hb c hc, hrank a ha c hc]
    exact le_trans
  | descending =>
    dsimp only
    rw [hrank b hb a ha, hrank c hc b hb, hrank c hc a ha]
    exact fun hba hcb => hcb.trans hba

variable {key}

/-- Where the comparison is transitive, entries are in order if neighbours are. -/
theorem IsConsistent.pairwise {entries : List Entry} (h : key.IsConsistent entries)
    (hchain : entries.IsChain fun a b => key.isBefore b.record a.record = false) :
    entries.Pairwise fun a b => key.isBefore b.record a.record = false := by
  induction entries with
  | nil => exact .nil
  | cons a rest ih =>
    cases rest with
    | nil => exact List.pairwise_singleton _ a
    | cons b rest =>
      obtain ⟨hab, hrest⟩ := List.isChain_cons_cons.1 hchain
      have hconsistent : key.IsConsistent (b :: rest) := fun x hx y hy z hz =>
        h x (List.mem_cons_of_mem _ hx) y (List.mem_cons_of_mem _ hy) z (List.mem_cons_of_mem _ hz)
      have hpairwise := ih hconsistent hrest
      refine List.pairwise_cons.2 ⟨fun c hc => ?_, hpairwise⟩
      rcases List.mem_cons.1 hc with rfl | hlater
      · exact hab
      · have hbc := (List.pairwise_cons.1 hpairwise).1 c hlater
        exact h a List.mem_cons_self b (by simp) c (List.mem_cons_of_mem _ hc) hab hbc

/-- Missing values come first, or last if the greatest comes first. -/
def MissingFirst (key : SortKey) (a b : Entry) : Prop :=
  match key.direction with
  | .ascending => key.value? b = none → key.value? a = none
  | .descending => key.value? a = none → key.value? b = none

theorem missingFirst_of_isBefore {a b : Entry} (h : key.isBefore b.record a.record = false) :
    key.MissingFirst a b := by
  rw [isBefore_eq] at h
  unfold MissingFirst
  revert h
  cases key.direction <;> cases key.value? a <;> cases key.value? b <;> simp [Value.sortOrder]

/-- This is transitive whatever the values are. -/
instance : Trans key.MissingFirst key.MissingFirst key.MissingFirst where
  trans {a b c} hab hbc := by
    unfold MissingFirst at *
    cases hdirection : key.direction with
    | ascending =>
      rw [hdirection] at hab hbc
      exact fun hc => hab (hbc hc)
    | descending =>
      rw [hdirection] at hab hbc
      exact fun ha => hbc (hab ha)

end SortKey

/-! ## Sorted selections -/

section

variable {table : Table} {query : Query} {key : SortKey} (h : query.sort = some key)
  (hmatched : (table.entries.filter query.selects).length ≤ 20 ∨
    key.IsConsistent (table.entries.filter query.selects))

include h

theorem Table.found_eq_page :
    table.found query = query.page (query.sorting.sort
      (fun a b => key.isBefore a.record b.record) (table.entries.filter query.selects)) := by
  rw [Table.found, Query.arrange, h]

include hmatched

theorem Table.isChain_found :
    (table.found query).IsChain fun a b => key.isBefore b.record a.record = false := by
  rw [Table.found_eq_page h]
  have hsorted := query.sorting.isChain_sort (hmatched.imp_right key.isConsistent_isBefore)
    key.isBefore_asymm
  exact List.IsChain.infix hsorted (query.isInfix_page _)

theorem Table.pairwise_found :
    (table.found query).Pairwise fun a b =>
      [a, b].Sublist table.entries ∨ key.isBefore a.record b.record = true := by
  rw [Table.found_eq_page h]
  have hsorted := query.sorting.pairwise_sort (hmatched.imp_right key.isConsistent_isBefore)
  refine (hsorted.sublist (query.page_sublist _)).imp ?_
  exact Or.imp_left fun hbefore => hbefore.trans List.filter_sublist

end

/-- If a query is about at most twenty entries, or if the comparison is transitive on all that it is
about, then a sorted selection is in order as far as the comparison is transitive: on any stretch of
it on which it is, no entry's value goes after that of a later one. Whatever the values are, entries
without one come first, or last if the greatest comes first, and entries that compare equal keep the
order of insertion. -/
theorem select_sorted (table : Table) {query : Query} {key : SortKey} (h : query.sort = some key)
    (hmatched : (table.entries.filter query.selects).length ≤ 20 ∨
      key.IsConsistent (table.entries.filter query.selects)) :
    (table.select query).entries = (table.found query).map query.projectEntry ∧
      (∀ stretch, stretch <:+: table.found query → key.IsConsistent stretch →
        stretch.Pairwise fun a b =>
          ∀ x y, key.value? a = some x → key.value? b = some y → ¬ key.IsAfter x y) ∧
      (table.found query).Pairwise key.MissingFirst ∧
      (table.found query).Pairwise fun a b =>
        Value.sortOrder (key.value? a) (key.value? b) = .eq → [a, b].Sublist table.entries := by
  have hfound := Table.isChain_found h hmatched
  refine ⟨table.select_entries query, fun stretch hstretch hconsistent => ?_, ?_, ?_⟩
  · have hchain := List.IsChain.infix hfound hstretch
    exact (hconsistent.pairwise hchain).imp fun hab x y hx hy => key.not_isAfter hx hy hab
  · exact List.isChain_iff_pairwise.1 (hfound.imp fun _ _ => SortKey.missingFirst_of_isBefore)
  · refine (Table.pairwise_found h hmatched).imp fun {a b} hab heq =>
      hab.resolve_right fun hbefore => ?_
    rw [SortKey.isBefore_eq, ← Value.swap_sortOrder (key.value? a), heq] at hbefore
    revert hbefore
    cases key.direction <;> decide

/-- Integers are compared consistently, and people without an age come first. -/
theorem select_sorted_ages :
    let key : SortKey := ⟨"age", .ascending⟩
    let person (id : String) (fields : Document) : Entry := ⟨fields, .empty id⟩
    let table : Table := ⟨[person "1" [("age", .int32 30)], person "2" [],
      person "3" [("age", .int32 20)], person "4" [("age", .int32 30)]]⟩
    let query : Query := { sort := some key }
    (table.entries.filter query.selects).length ≤ 20 ∧
      (table.found query).map (·.id) = ["2", "3", "1", "4"] ∧ key.IsConsistent (table.found query) ∧
      (table.found query).Pairwise fun a b =>
        ∀ x y, key.value? a = some x → key.value? b = some y → ¬ key.IsAfter x y := by
  intro key person table query
  have hids : (table.found query).map (·.id) = ["2", "3", "1", "4"] := by
    simp only [table, query, person, key]
    rfl
  have hages : ∀ entry ∈ table.entries, ∀ x, key.value? entry = some x →
      x = .int32 30 ∨ x = .int32 20 := by
    simp only [table, List.forall_mem_cons, person, key]
    refine ⟨?_, ?_, ?_, ?_, fun _ h => nomatch h⟩ <;> intro x hx <;> cases hx <;> simp
  have hconsistent : key.IsConsistent (table.found query) := by
    let rank (value : Value) : Int := (value.asInteger?.getD 0).toInt
    refine key.isConsistent_of_rank rank fun a ha b hb x y hx hy => ?_
    rcases hages a (Table.mem_found ha).1 x hx with rfl | rfl <;>
      rcases hages b (Table.mem_found hb).1 y hy with rfl | rfl <;> rfl
  have hsort : query.sort = some key := rfl
  have hfew : (table.entries.filter query.selects).length ≤ 20 :=
    (List.length_filter_le query.selects table.entries).trans (by decide)
  have hsorted := (select_sorted table hsort (.inl hfew)).2.1
  exact ⟨hfew, hids, hconsistent, hsorted _ (List.infix_refl _) hconsistent⟩

/-- A null between two numbers hides that they are the wrong way round. -/
theorem select_unsorted_around_null :
    let key : SortKey := ⟨"n", .ascending⟩
    let score (id : String) (value : Value) : Entry := ⟨[("n", value)], .empty id⟩
    let table : Table := ⟨[score "1" (.int32 3), score "2" .null, score "3" (.int32 1)]⟩
    let query : Query := { sort := some key }
    (table.found query).map key.value? = [some (.int32 3), some .null, some (.int32 1)] ∧
      key.IsAfter (.int32 3) (.int32 1) ∧
      ¬ (table.found query).Pairwise fun a b =>
        ∀ x y, key.value? a = some x → key.value? b = some y → ¬ key.IsAfter x y := by
  intro key score table query
  have hfound : table.found query = table.entries := by
    simp only [table, query, score, key]
    rfl
  have hvalue : ∀ id value, key.value? (score id value) = some value := fun id value => by
    simp only [score, key]
    rfl
  have hafter : key.IsAfter (.int32 3) (.int32 1) := rfl
  rw [hfound]
  refine ⟨by simp only [table, List.map_cons, List.map_nil, hvalue], hafter, fun hsorted => ?_⟩
  have hfirst := (List.pairwise_cons.1 hsorted).1 (score "3" (.int32 1)) (by simp)
  exact hfirst _ _ (hvalue _ _) (hvalue _ _) hafter

end FieldGuard
