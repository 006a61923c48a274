import FieldGuard.Document.Projection
import FieldGuard.Proofs.Path.Segments

/-!
# Outermost paths

Containment orders paths, and a container comes before what it holds in the order of texts too. In a
list of paths each one lies within an outermost one, so that leaving out the others changes nothing
of what lies within the list:

* `Path.isWithin_antisymm`, `Path.lt_of_isWithin`: containment as an order;
* `Path.mem_outermost`: the outermost paths of a list;
* `Path.isWithinAny_outermost`: they hold all that the list holds.
-/

namespace FieldGuard.Path

variable {path parent : String} {paths : List String}

theorem isWithin_antisymm {p q : String} (hpq : isWithin p q = true) (hqp : isWithin q p = true) :
    p = q := by
  rw [isWithin_iff] at hpq hqp
  exact segments_injective (hqp.eq_of_length (Nat.le_antisymm hqp.length_le hpq.length_le))

/-- A path has more segments than what it strictly lies within. -/
theorem length_segments_lt (h : isWithin path parent = true) (hne : path ≠ parent) :
    (segments parent).length < (segments path).length := by
  rw [isWithin_iff] at h
  refine Nat.lt_of_le_of_ne h.length_le fun hlength => hne ?_
  exact (segments_injective (h.eq_of_length hlength)).symm

/-- A container comes before what it holds. -/
theorem lt_of_isWithin (h : isWithin path parent = true) (hne : path ≠ parent) : parent < path := by
  obtain rfl | ⟨rest, rfl⟩ := isWithin_iff_append.1 h
  · exact absurd rfl hne
  rw [String.lt_iff, String.toList_append, String.toList_append, List.append_assoc]
  have hmore : [] < ".".toList ++ rest.toList := List.nil_lt_cons _ _
  have hlonger : parent.toList ++ [] < parent.toList ++ (".".toList ++ rest.toList) :=
    List.append_left_lt hmore
  rwa [List.append_nil] at hlonger

/-! ## The outermost paths of a list -/

theorem mem_addNew {kept : List String} {other : String} :
    other ∈ addNew kept path ↔ other ∈ kept ∨ other = path := by
  unfold addNew
  split
  · rename_i h
    rw [List.contains_iff_mem] at h
    exact ⟨.inl, fun ho => ho.elim id fun e => e ▸ h⟩
  · simp

theorem mem_foldl_addNew {kept : List String} :
    path ∈ paths.foldl addNew kept ↔ path ∈ kept ∨ path ∈ paths := by
  induction paths generalizing kept with
  | nil => simp
  | cons first rest ih => rw [List.foldl_cons, ih, mem_addNew, List.mem_cons, or_assoc]

/-- A path of the list is outermost if it lies within no other one. -/
theorem mem_outermost :
    path ∈ outermost paths ↔
      path ∈ paths ∧ ∀ other ∈ paths, isWithin path other = true → other = path := by
  have hfold : outermost paths = (paths.filter fun path =>
      !paths.any fun other => other != path && isWithin path other).foldl addNew [] := by
    rw [outermost, List.foldl_filter]
    congr 1
    funext kept path
    cases paths.any fun other => other != path && isWithin path other <;> rfl
  rw [hfold, mem_foldl_addNew]
  simp only [List.not_mem_nil, false_or, List.mem_filter, Bool.not_eq_true', List.any_eq_false,
    Bool.and_eq_true, bne_iff_ne, ne_eq, not_and', not_not]

/-- Each path of a list lies within an outermost one: one that has the fewest segments of those
that it lies within. -/
theorem exists_outermost (h : path ∈ paths) :
    ∃ root ∈ outermost paths, isWithin path root = true := by
  induction hlength : (segments path).length using Nat.strongRecOn generalizing path with
  | ind length ih =>
    by_cases hout : ∀ other ∈ paths, isWithin path other = true → other = path
    · exact ⟨path, mem_outermost.2 ⟨h, hout⟩, isWithin_refl path⟩
    · push Not at hout
      obtain ⟨other, hother, hwithin, hne⟩ := hout
      have hlt := length_segments_lt hwithin hne.symm
      obtain ⟨root, hroot, hlast⟩ := ih _ (hlength ▸ hlt) hother rfl
      exact ⟨root, hroot, isWithin_trans hwithin hlast⟩

theorem outermost_ne_nil (h : paths ≠ []) : outermost paths ≠ [] := by
  obtain ⟨path, rest, rfl⟩ := List.exists_cons_of_ne_nil h
  obtain ⟨root, hroot, -⟩ := exists_outermost (List.mem_cons_self (a := path) (l := rest))
  exact List.ne_nil_of_mem hroot

/-- The outermost paths hold all that the list holds. -/
theorem isWithinAny_outermost (path : String) (paths : List String) :
    isWithinAny path (outermost paths) = isWithinAny path paths := by
  rw [Bool.eq_iff_iff, isWithinAny_iff, isWithinAny_iff]
  constructor
  · rintro ⟨root, hroot, hwithin⟩
    exact ⟨root, (mem_outermost.1 hroot).1, hwithin⟩
  · rintro ⟨parent, hparent, hwithin⟩
    obtain ⟨root, hroot, hlast⟩ := exists_outermost hparent
    exact ⟨root, hroot, isWithin_trans hwithin hlast⟩

end FieldGuard.Path
