import FieldGuard.Permission.Reduction
import FieldGuard.Proofs.Dict
import Mathlib.Data.List.Nodup

/-!
# Tallies

A tally holds the paths that were counted, each with the number of times. Counting the paths of
lists without repetition counts for each path the lists that hold it (`Tally.Counts.foldl`).
-/

namespace FieldGuard.Tally

variable {tally : Tally} {times : String → Nat}

/-- The tally holds a path exactly if it was counted, with the number of times it was. -/
def Counts (tally : Tally) (times : String → Nat) : Prop :=
  ∀ path, tally.get? path = if times path = 0 then none else some (times path)

theorem counts_empty : Counts .empty fun _ => 0 :=
  fun _ => rfl

namespace Counts

theorem congr (h : tally.Counts times) {times' : String → Nat}
    (htimes : ∀ path, times path = times' path) : tally.Counts times' :=
  funext htimes ▸ h

theorem getD (h : tally.Counts times) (path : String) :
    (tally.get? path).getD 0 = times path := by
  rw [h path]
  split
  · rename_i hzero
    exact hzero.symm
  · rfl

theorem count (h : tally.Counts times) (path : String) :
    (tally.count path).Counts fun other => times other + if other = path then 1 else 0 := by
  intro other
  rw [Tally.count, SortedDict.get?_insert, h.getD]
  by_cases hother : other = path
  · simp [hother]
  · simpa [hother] using h other

theorem countAll (h : tally.Counts times) (paths : List String) :
    (tally.countAll paths).Counts fun path => times path + paths.count path := by
  induction paths generalizing tally times with
  | nil => exact h
  | cons first rest ih =>
    refine (ih (h.count first)).congr fun path => ?_
    simp only [List.count_cons, beq_iff_eq, eq_comm (a := first)]
    omega

/-- Lists without repetition count once each for the paths that they hold. -/
theorem foldl {α : Type} (h : tally.Counts times) {paths : α → List String} {xs : List α}
    (hpaths : ∀ x ∈ xs, (paths x).Nodup) :
    (xs.foldl (fun tally x => tally.countAll (paths x)) tally).Counts fun path =>
      times path + xs.countP fun x => path ∈ paths x := by
  induction xs generalizing tally times with
  | nil => exact h
  | cons x rest ih =>
    obtain ⟨hx, hrest⟩ := List.forall_mem_cons.1 hpaths
    refine (ih (h.countAll (paths x)) hrest).congr fun path => ?_
    simp only [hx.count, List.countP_cons, decide_eq_true_eq]
    omega

/-- A count in a tally is positive. -/
theorem pos (h : tally.Counts times) {path : String} {count : Nat}
    (hget : tally.get? path = some count) : 1 ≤ count ∧ count = times path := by
  rw [h path] at hget
  split at hget
  · cases hget
  · rename_i hne
    cases hget
    exact ⟨Nat.one_le_iff_ne_zero.2 hne, rfl⟩

/-- A tally is empty if nothing was counted. -/
theorem entries_ne_nil_iff (h : tally.Counts times) :
    tally.entries ≠ [] ↔ ∃ path, times path ≠ 0 := by
  constructor
  · intro hne
    obtain ⟨⟨path, count⟩, hmem⟩ := List.exists_mem_of_ne_nil _ hne
    obtain ⟨hpos, hcount⟩ := h.pos ((Dict.get?_eq_some_iff_mem tally.hasDistinctKeys).2 hmem)
    exact ⟨path, by omega⟩
  · rintro ⟨path, hne⟩
    have hget := h path
    rw [if_neg hne] at hget
    exact List.ne_nil_of_mem (Dict.mem_of_get? hget)

end Counts

end FieldGuard.Tally
