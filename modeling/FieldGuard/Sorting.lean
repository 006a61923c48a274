/-!
# Sorting by a comparison

A comparison says of two elements whether the first one is smaller, and need not be an order. What
is known of a sort then depends on it (`Sorting`): few elements are sorted by insertion, whatever
the comparison says, and a consistent comparison (`Sorting.IsConsistent`) gives a stable order of
any number of them; in all other cases any order may come out. A sort that gives up on such a
comparison gives no list, and is no case here.
-/

namespace FieldGuard

namespace Sorting

variable {α β : Type}

/-! ## Insertion -/

/-- Inserts an element into a list given last first, before the first one that it is not
smaller than. -/
def insertLast (smaller : α → α → Bool) (x : α) : List α → List α
  | [] => [x]
  | y :: rest => if smaller x y then y :: insertLast smaller x rest else x :: y :: rest

/-- Sorts by inserting one element after the other from the end; elements of which none is
smaller keep their order. -/
def insertionSort (smaller : α → α → Bool) (xs : List α) : List α :=
  (xs.foldl (fun sorted x => insertLast smaller x sorted) []).reverse

section

variable (smaller : α → α → Bool)

theorem perm_insertLast (x : α) (xs : List α) : (insertLast smaller x xs).Perm (x :: xs) := by
  induction xs with
  | nil => exact .refl _
  | cons y rest ih =>
    unfold insertLast
    split
    · exact (ih.cons y).trans (.swap x y rest)
    · exact .refl _

theorem insertLast_subset {x : α} {sorted xs : List α} (hx : x ∈ xs) (hsorted : sorted ⊆ xs) :
    insertLast smaller x sorted ⊆ xs := fun _ hy =>
  List.cons_subset.2 ⟨hx, hsorted⟩ ((perm_insertLast smaller x sorted).subset hy)

theorem perm_insertionSort (xs : List α) : (insertionSort smaller xs).Perm xs := by
  suffices h : ∀ sorted : List α,
      (xs.foldl (fun sorted x => insertLast smaller x sorted) sorted).Perm (sorted ++ xs) from
    (List.reverse_perm _).trans (h [])
  induction xs with
  | nil => exact fun sorted => by rw [List.append_nil]; exact .refl _
  | cons x rest ih =>
    intro sorted
    have hfirst : (insertLast smaller x sorted ++ rest).Perm (x :: sorted ++ rest) :=
      (perm_insertLast smaller x sorted).append_right rest
    exact (ih _).trans (hfirst.trans (by rw [List.cons_append]; exact List.perm_middle.symm))

end

variable {smaller : α → α → Bool}

theorem map_insertLast {smaller' : β → β → Bool} {f : α → β} {x : α} {xs : List α}
    (h : ∀ y ∈ xs, smaller' (f x) (f y) = smaller x y) :
    insertLast smaller' (f x) (xs.map f) = (insertLast smaller x xs).map f := by
  induction xs with
  | nil => rfl
  | cons y rest ih =>
    obtain ⟨hy, hrest⟩ := List.forall_mem_cons.1 h
    rw [List.map_cons, insertLast, insertLast, hy]
    split
    · rw [ih hrest, List.map_cons]
    · rw [List.map_cons, List.map_cons]

/-- Insertion sort sees the elements through the comparison alone. -/
theorem map_insertionSort {smaller' : β → β → Bool} {f : α → β} {xs : List α}
    (h : ∀ x ∈ xs, ∀ y ∈ xs, smaller' (f x) (f y) = smaller x y) :
    insertionSort smaller' (xs.map f) = (insertionSort smaller xs).map f := by
  suffices hfold : ∀ rest sorted : List α, rest ⊆ xs → sorted ⊆ xs →
      (rest.map f).foldl (fun sorted x => insertLast smaller' x sorted) (sorted.map f) =
        (rest.foldl (fun sorted x => insertLast smaller x sorted) sorted).map f by
    rw [insertionSort, insertionSort, List.map_reverse, ← hfold xs [] (List.Subset.refl _)
      (List.nil_subset _), List.map_nil]
  intro rest
  induction rest with
  | nil => exact fun _ _ _ => rfl
  | cons x rest ih =>
    intro sorted hrest hsorted
    obtain ⟨hx, hrest⟩ := List.cons_subset.1 hrest
    rw [List.map_cons, List.foldl_cons, List.foldl_cons,
      map_insertLast fun y hy => h x hx y (hsorted hy),
      ih _ hrest (insertLast_subset smaller hx hsorted)]

/-- What each insertion keeps is true of all elements, given last first. -/
theorem reverse_insertionSort_induct {P : List α → Prop} {xs : List α} (hnil : P [])
    (hinsert : ∀ x ∈ xs, ∀ sorted, sorted ⊆ xs → P sorted → P (insertLast smaller x sorted)) :
    P (insertionSort smaller xs).reverse := by
  suffices hfold : ∀ rest sorted : List α, rest ⊆ xs → sorted ⊆ xs → P sorted →
      P (rest.foldl (fun sorted x => insertLast smaller x sorted) sorted) by
    rw [insertionSort, List.reverse_reverse]
    exact hfold xs [] (List.Subset.refl _) (List.nil_subset _) hnil
  intro rest
  induction rest with
  | nil => exact fun _ _ _ hsorted => hsorted
  | cons x rest ih =>
    intro sorted hrest hsub hsorted
    obtain ⟨hx, hrest⟩ := List.cons_subset.1 hrest
    exact ih _ hrest (insertLast_subset smaller hx hsub) (hinsert x hx sorted hsub hsorted)

theorem pairwise_insertLast {r : α → α → Prop} {x : α} {sorted : List α} (h : sorted.Pairwise r)
    (hlast : ∀ y ∈ sorted, r x y) (hpassed : ∀ y ∈ sorted, smaller x y = true → r y x) :
    (insertLast smaller x sorted).Pairwise r := by
  induction sorted with
  | nil => exact List.pairwise_singleton r x
  | cons y rest ih =>
    obtain ⟨hy, hrest⟩ := List.pairwise_cons.1 h
    unfold insertLast
    split
    · rename_i hsmaller
      refine List.pairwise_cons.2 ⟨fun z hz => ?_, ih hrest
        (fun z hz => hlast z (List.mem_cons_of_mem _ hz))
        (fun z hz => hpassed z (List.mem_cons_of_mem _ hz))⟩
      rcases List.mem_cons.1 ((perm_insertLast smaller x rest).subset hz) with rfl | hz
      · exact hpassed y List.mem_cons_self hsmaller
      · exact hy z hz
    · exact List.pairwise_cons.2 ⟨hlast, h⟩

/-- Two elements change places only if the later one is smaller. -/
theorem pairwise_insertionSort (xs : List α) :
    (insertionSort smaller xs).Pairwise fun earlier later =>
      [earlier, later].Sublist xs ∨ smaller earlier later = true := by
  -- The elements sorted so far are `done`, in their own order.
  suffices h : ∀ rest done sorted : List α, sorted.Perm done →
      (sorted.Pairwise fun later earlier =>
        [earlier, later].Sublist done ∨ smaller earlier later = true) →
      (rest.foldl (fun sorted x => insertLast smaller x sorted) sorted).Pairwise
        fun later earlier =>
          [earlier, later].Sublist (done ++ rest) ∨ smaller earlier later = true from
    List.pairwise_reverse.2 (h xs [] [] .nil .nil)
  intro rest
  induction rest with
  | nil =>
    intro done sorted _ h
    rwa [List.append_nil]
  | cons x rest ih =>
    intro done sorted hperm h
    rw [List.append_cons]
    refine ih (done ++ [x]) _ ?_ (pairwise_insertLast (h.imp ?_) (fun y hy => ?_) fun y _ => .inr)
    · exact (perm_insertLast smaller x sorted).trans
        ((hperm.cons x).trans (List.perm_append_singleton x done).symm)
    · rintro later earlier (hbefore | hsmaller)
      · exact .inl (hbefore.trans (List.sublist_append_left _ _))
      · exact .inr hsmaller
    · have hy : [y].Sublist done := List.singleton_sublist.2 (hperm.subset hy)
      exact .inl (hy.append (List.Sublist.refl [x]))

/-! ## Consistent comparisons -/

/-- On some elements, of two elements not each is smaller than the other, and leaving two elements
in their order is transitive. -/
structure IsConsistent (smaller : α → α → Bool) (xs : List α) : Prop where
  asymm : ∀ a ∈ xs, ∀ b ∈ xs, smaller a b = true → smaller b a = false
  trans : ∀ a ∈ xs, ∀ b ∈ xs, ∀ c ∈ xs,
    smaller b a = false → smaller c b = false → smaller c a = false

theorem IsConsistent.mono {xs ys : List α} (h : IsConsistent smaller ys) (hsub : xs ⊆ ys) :
    IsConsistent smaller xs where
  asymm a ha b hb := h.asymm a (hsub ha) b (hsub hb)
  trans a ha b hb c hc := h.trans a (hsub ha) b (hsub hb) c (hsub hc)

theorem ordered_insertLast {x : α} {sorted : List α} (h : IsConsistent smaller (x :: sorted))
    (hsorted : sorted.Pairwise fun later earlier => smaller later earlier = false) :
    (insertLast smaller x sorted).Pairwise fun later earlier => smaller later earlier = false := by
  induction sorted with
  | nil => exact List.pairwise_singleton _ x
  | cons y rest ih =>
    obtain ⟨hy, hrest⟩ := List.pairwise_cons.1 hsorted
    have hyMem : y ∈ x :: y :: rest := List.mem_cons_of_mem _ List.mem_cons_self
    unfold insertLast
    split
    · rename_i hsmaller
      have hinner := h.mono (List.cons_subset_cons x (List.subset_cons_self y rest))
      refine List.pairwise_cons.2 ⟨fun z hz => ?_, ih hinner hrest⟩
      rcases List.mem_cons.1 ((perm_insertLast smaller x rest).subset hz) with rfl | hz
      · exact h.asymm z List.mem_cons_self y hyMem hsmaller
      · exact hy z hz
    · rename_i hstays
      have hxy : smaller x y = false := eq_false_of_ne_true hstays
      refine List.pairwise_cons.2 ⟨fun z hz => ?_, hsorted⟩
      rcases List.mem_cons.1 hz with rfl | hlater
      · exact hxy
      · exact h.trans z (List.mem_cons_of_mem _ hz) y hyMem x List.mem_cons_self (hy z hlater) hxy

/-- A consistent comparison puts all elements in order. -/
theorem ordered_insertionSort {xs : List α} (h : IsConsistent smaller xs) :
    (insertionSort smaller xs).Pairwise fun earlier later => smaller later earlier = false := by
  refine List.pairwise_reverse.1 (reverse_insertionSort_induct .nil ?_)
  intro x hx sorted hsub hsorted
  exact ordered_insertLast (h.mono (List.cons_subset.2 ⟨hx, hsub⟩)) hsorted

end Sorting

/-! ## Sorts -/

/-- A way to sort, and what is known of it. -/
structure Sorting (α : Type) where
  /-- The list sorted by the comparison. -/
  sort : (α → α → Bool) → List α → List α
  /-- The elements are seen through the comparison alone: two lists on which two comparisons say
  the same, place by place, are rearranged in the same way. Nothing is lost or doubled. -/
  alike {smaller smaller' : α → α → Bool} {pairs : List (α × α)} :
    (∀ p ∈ pairs, ∀ q ∈ pairs, smaller p.1 q.1 = smaller' p.2 q.2) →
      ∃ arranged : List (α × α), arranged.Perm pairs ∧
        sort smaller (pairs.map (·.1)) = arranged.map (·.1) ∧
        sort smaller' (pairs.map (·.2)) = arranged.map (·.2)
  /-- At most twenty elements are sorted by insertion. -/
  short {smaller : α → α → Bool} {xs : List α} :
    xs.length ≤ 20 → sort smaller xs = Sorting.insertionSort smaller xs
  /-- A consistent comparison puts all elements in order. -/
  ordered {smaller : α → α → Bool} {xs : List α} : Sorting.IsConsistent smaller xs →
    (sort smaller xs).Pairwise fun earlier later => smaller later earlier = false
  /-- By a consistent comparison, two elements change places only if the later one is smaller. -/
  stable {smaller : α → α → Bool} {xs : List α} : Sorting.IsConsistent smaller xs →
    (sort smaller xs).Pairwise fun earlier later =>
      [earlier, later].Sublist xs ∨ smaller earlier later = true

namespace Sorting

variable {α : Type}

/-- Sorting any number of elements by insertion. -/
def insertion : Sorting α where
  sort := insertionSort
  alike {smaller _ pairs} h :=
    ⟨insertionSort (fun p q => smaller p.1 q.1) pairs, perm_insertionSort _ pairs,
      map_insertionSort fun _ _ _ _ => rfl,
      map_insertionSort fun p hp q hq => (h p hp q hq).symm⟩
  short _ := rfl
  ordered := ordered_insertionSort
  stable _ := pairwise_insertionSort _

/-- A sort loses and doubles nothing. -/
theorem perm_sort (sorting : Sorting α) (smaller : α → α → Bool) (xs : List α) :
    (sorting.sort smaller xs).Perm xs := by
  have hsame : ∀ p ∈ xs.map fun x => (x, x), ∀ q ∈ xs.map fun x => (x, x),
      smaller p.1 q.1 = smaller p.2 q.2 := by
    intro p hp q hq
    obtain ⟨x, -, rfl⟩ := List.mem_map.1 hp
    obtain ⟨y, -, rfl⟩ := List.mem_map.1 hq
    rfl
  obtain ⟨arranged, hperm, hsort, -⟩ := sorting.alike hsame
  have hfirst : (xs.map fun x => (x, x)).map (·.1) = xs := by
    rw [List.map_map]
    exact List.map_id xs
  have hmap := hperm.map (·.1)
  rwa [hfirst, ← hsort, hfirst] at hmap

end Sorting

end FieldGuard
