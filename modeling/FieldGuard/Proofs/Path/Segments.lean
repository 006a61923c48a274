import FieldGuard.Path
import Mathlib.Data.List.Basic

/-!
# Segments of paths

Cutting a path at its dots and joining the segments again:

* `ofSegments_segments`, `segments_ofSegments`: each undoes the other, the second for names
  without dots; for any names, `segments_ofSegments_flatMap`;
* `isWithin_iff`: a path is within another one if its segments start with those of the other;
* `mem_ancestors_iff`: the containers of a path are its proper starts.
-/

namespace FieldGuard.Path

/-! ## Cutting -/

theorem splitDots_dot (cs : List Char) : splitDots ('.' :: cs) = [] :: splitDots cs := rfl

theorem splitDots_ne_nil : ∀ cs : List Char, splitDots cs ≠ []
  | [] => by simp [splitDots]
  | c :: rest => by
    unfold splitDots
    split
    · simp
    · split <;> simp

/-- A character that is no dot belongs to the first segment. -/
theorem splitDots_cons {c : Char} (hc : c ≠ '.') {cs first : List Char} {more : List (List Char)}
    (h : splitDots cs = first :: more) : splitDots (c :: cs) = (c :: first) :: more := by
  rw [splitDots, if_neg hc, h]

/-- Cutting at a dot that is there. -/
theorem splitDots_append (xs ys : List Char) :
    splitDots (xs ++ '.' :: ys) = splitDots xs ++ splitDots ys := by
  induction xs with
  | nil => rfl
  | cons c xs ih =>
    by_cases hc : c = '.'
    · subst hc
      rw [List.cons_append, splitDots_dot, splitDots_dot, ih, List.cons_append]
    · obtain ⟨first, more, hs⟩ := List.exists_cons_of_ne_nil (splitDots_ne_nil xs)
      rw [hs, List.cons_append] at ih
      rw [List.cons_append, splitDots_cons hc hs, splitDots_cons hc ih, List.cons_append]

theorem splitDots_of_not_mem {cs : List Char} (h : '.' ∉ cs) : splitDots cs = [cs] := by
  induction cs with
  | nil => rfl
  | cons c cs ih =>
    simp only [List.mem_cons, not_or] at h
    exact splitDots_cons (Ne.symm h.1) (ih h.2)

theorem not_mem_of_mem_splitDots {cs segment : List Char} (h : segment ∈ splitDots cs) :
    '.' ∉ segment := by
  induction cs generalizing segment with
  | nil => simp_all [splitDots]
  | cons c cs ih =>
    by_cases hc : c = '.'
    · subst hc
      rcases List.mem_cons.1 h with rfl | h
      · simp
      · exact ih h
    · obtain ⟨first, more, hs⟩ := List.exists_cons_of_ne_nil (splitDots_ne_nil cs)
      rw [splitDots_cons hc hs] at h
      rw [hs] at ih
      rcases List.mem_cons.1 h with rfl | h
      · simp only [List.mem_cons, not_or]
        exact ⟨Ne.symm hc, ih List.mem_cons_self⟩
      · exact ih (List.mem_cons_of_mem _ h)

theorem segments_ne_nil (path : String) : segments path ≠ [] := by
  simp [segments, splitDots_ne_nil]

theorem dot_not_mem_of_mem_segments {path segment : String} (h : segment ∈ segments path) :
    '.' ∉ segment.toList := by
  obtain ⟨cs, hcs, rfl⟩ := List.mem_map.1 h
  rw [String.toList_ofList]
  exact not_mem_of_mem_splitDots hcs

/-- A name without dots is its own only segment. -/
theorem segments_of_dot_not_mem {key : String} (h : '.' ∉ key.toList) : segments key = [key] := by
  simp [segments, splitDots_of_not_mem h]

theorem segments_append_dot (p q : String) :
    segments (p ++ "." ++ q) = segments p ++ segments q := by
  simp only [segments, String.toList_append]
  rw [show ".".toList = ['.'] from rfl, List.append_assoc, List.singleton_append, splitDots_append,
    List.map_append]

/-! ## Joining -/

theorem ofSegments_cons {segment : String} {rest : List String} (h : rest ≠ []) :
    ofSegments (segment :: rest) = segment ++ "." ++ ofSegments rest := by
  obtain ⟨next, more, rfl⟩ := List.exists_cons_of_ne_nil h
  rfl

theorem ofSegments_append {xs ys : List String} (hx : xs ≠ []) (hy : ys ≠ []) :
    ofSegments (xs ++ ys) = ofSegments xs ++ "." ++ ofSegments ys := by
  induction xs with
  | nil => exact absurd rfl hx
  | cons x xs ih =>
    by_cases h : xs = []
    · subst h
      exact ofSegments_cons hy
    · rw [List.cons_append, ofSegments_cons (by simp [h]), ofSegments_cons h, ih h]
      simp only [String.append_assoc]

/-- Joining the segments of a path gives the path. -/
theorem ofSegments_segments (path : String) : ofSegments (segments path) = path := by
  suffices h : ∀ cs, ofSegments ((splitDots cs).map String.ofList) = String.ofList cs by
    rw [segments, h, String.ofList_toList]
  intro cs
  induction cs with
  | nil => rfl
  | cons c cs ih =>
    by_cases hc : c = '.'
    · subst hc
      rw [splitDots_dot, List.map_cons, ofSegments_cons (by simp [splitDots_ne_nil]), ih]
      apply String.toList_inj.1
      simp [String.toList_append]
    · -- The first segment grows by one character; what follows it stays.
      obtain ⟨first, more, hs⟩ := List.exists_cons_of_ne_nil (splitDots_ne_nil cs)
      rw [splitDots_cons hc hs]
      rw [hs] at ih
      apply String.toList_inj.1
      rw [String.toList_ofList, ← String.toList_ofList (l := cs), ← ih]
      cases more with
      | nil => simp [ofSegments]
      | cons next more => simp [ofSegments, String.toList_append]

theorem segments_injective : Function.Injective segments := fun p q h => by
  rw [← ofSegments_segments p, h, ofSegments_segments]

/-- The segments of a joined path are those of its parts, whatever dots the parts hold. -/
theorem segments_ofSegments_flatMap {keys : List String} (h : keys ≠ []) :
    segments (ofSegments keys) = keys.flatMap segments := by
  induction keys with
  | nil => exact absurd rfl h
  | cons key keys ih =>
    by_cases hk : keys = []
    · subst hk
      simp [ofSegments]
    · rw [ofSegments_cons hk, segments_append_dot, ih hk, List.flatMap_cons]

theorem flatMap_segments {keys : List String} (h : ∀ key ∈ keys, '.' ∉ key.toList) :
    keys.flatMap segments = keys := by
  induction keys with
  | nil => rfl
  | cons key keys ih =>
    rw [List.flatMap_cons, segments_of_dot_not_mem (h key List.mem_cons_self),
      ih fun k hk => h k (List.mem_cons_of_mem _ hk), List.singleton_append]

/-- Cutting a path of names without dots gives the names. -/
theorem segments_ofSegments {keys : List String} (hne : keys ≠ [])
    (h : ∀ key ∈ keys, '.' ∉ key.toList) : segments (ofSegments keys) = keys := by
  rw [segments_ofSegments_flatMap hne, flatMap_segments h]

theorem ofSegments_inj {xs ys : List String} (hx : xs ≠ []) (hxfree : ∀ key ∈ xs, '.' ∉ key.toList)
    (hy : ys ≠ []) (hyfree : ∀ key ∈ ys, '.' ∉ key.toList) (h : ofSegments xs = ofSegments ys) :
    xs = ys := by
  rw [← segments_ofSegments hx hxfree, h, segments_ofSegments hy hyfree]

theorem flatMap_segments_eq_nil {keys : List String} : keys.flatMap segments = [] ↔ keys = [] := by
  cases keys with
  | nil => simp
  | cons key keys => simp [segments_ne_nil]

/-- A path of two segments starts with a name that has the first of them, or both. -/
theorem segments_head_of_pair {name first second : String} {names : List String}
    (h : segments (ofSegments (name :: names)) = [first, second]) :
    segments name = [first] ∨ segments name = [first, second] := by
  rw [segments_ofSegments_flatMap (List.cons_ne_nil _ _), List.flatMap_cons] at h
  rcases List.append_eq_cons_iff.1 h with ⟨hnil, -⟩ | ⟨more, hmore, hrest⟩
  · exact absurd hnil (segments_ne_nil name)
  · rcases List.append_eq_cons_iff.1 hrest.symm with ⟨rfl, -⟩ | ⟨last, rfl, hlast⟩
    · exact .inl hmore
    · rw [(List.append_eq_nil_iff.1 hlast.symm).1] at hmore
      exact .inr hmore

/-! ## Containment -/

/-- A path is within another one if it is that path, or goes on after it with a dot. -/
theorem isWithin_iff_append {path parent : String} :
    isWithin path parent = true ↔ path = parent ∨ ∃ rest, path = parent ++ "." ++ rest := by
  unfold isWithin
  split
  · rename_i h
    rw [List.isPrefixOf?_eq_some_iff_append_eq, List.append_nil, String.toList_inj] at h
    simp [h]
  · rename_i c rest h
    rw [List.isPrefixOf?_eq_some_iff_append_eq] at h
    have hne : path ≠ parent := fun e => by
      rw [e] at h
      simp at h
    simp only [decide_eq_true_eq, hne, false_or]
    constructor
    · rintro rfl
      refine ⟨String.ofList rest, String.toList_inj.1 ?_⟩
      simp [← h, String.toList_append]
    · rintro ⟨more, rfl⟩
      simp only [String.toList_append, List.append_assoc, List.append_cancel_left_eq] at h
      exact (List.cons.inj h).1
  · rename_i h
    simp only [Bool.false_eq_true, false_iff, not_or, not_exists]
    have hno : ∀ zs, path.toList ≠ parent.toList ++ zs := fun zs e => by
      rw [List.isPrefixOf?_eq_some_iff_append_eq.2 e.symm] at h
      cases h
    refine ⟨fun e => hno [] (by rw [e, List.append_nil]), fun rest e => hno ('.' :: rest.toList) ?_⟩
    simp [e, String.toList_append]

theorem dot_mem_of_isWithin {path parent : String} (h : isWithin path parent = true)
    (hne : path ≠ parent) : '.' ∈ path.toList := by
  rcases isWithin_iff_append.1 h with e | ⟨more, rfl⟩
  · exact absurd e hne
  · simp [String.toList_append]

/-- A path is within another one exactly if its segments start with those of the other. -/
theorem isWithin_iff {path parent : String} :
    isWithin path parent = true ↔ segments parent <+: segments path := by
  rw [isWithin_iff_append]
  constructor
  · rintro (rfl | ⟨rest, rfl⟩)
    · exact List.prefix_rfl
    · exact ⟨segments rest, (segments_append_dot _ _).symm⟩
  · rintro ⟨rest, h⟩
    by_cases hr : rest = []
    · rw [hr, List.append_nil] at h
      exact .inl (segments_injective h).symm
    · refine .inr ⟨ofSegments rest, ?_⟩
      rw [← ofSegments_segments path, ← h, ofSegments_append (segments_ne_nil _) hr,
        ofSegments_segments]

theorem isWithin_eq_false_iff {path parent : String} :
    isWithin path parent = false ↔ ¬ segments parent <+: segments path := by
  rw [← isWithin_iff, Bool.not_eq_true]

theorem isWithin_refl (path : String) : isWithin path path = true :=
  isWithin_iff.2 List.prefix_rfl

theorem isWithin_join (container key : String) :
    isWithin (join (some container) key) container = true :=
  isWithin_iff_append.2 (.inr ⟨key, rfl⟩)

theorem isWithin_trans {p q r : String} (hpq : isWithin p q = true) (hqr : isWithin q r = true) :
    isWithin p r = true :=
  isWithin_iff.2 ((isWithin_iff.1 hqr).trans (isWithin_iff.1 hpq))

/-- A path of one segment is within no other path. -/
theorem eq_of_isWithin {path parent key : String} (h : segments path = [key])
    (hwithin : isWithin path parent = true) : parent = path := by
  rw [isWithin_iff, h] at hwithin
  refine segments_injective ((hwithin.eq_of_length ?_).trans h.symm)
  exact Nat.le_antisymm hwithin.length_le (List.length_pos_iff.2 (segments_ne_nil parent))

theorem isWithinAny_iff {path : String} {parents : List String} :
    isWithinAny path parents = true ↔ ∃ parent ∈ parents, isWithin path parent = true := by
  simp [isWithinAny]

/-- Neither the order of the paths nor their repetition matters. -/
theorem isWithinAny_congr {paths others : List String} (h : ∀ path, path ∈ others ↔ path ∈ paths)
    (path : String) : isWithinAny path others = isWithinAny path paths := by
  rw [Bool.eq_iff_iff, isWithinAny_iff, isWithinAny_iff]
  exact exists_congr fun parent => and_congr_left fun _ => h parent

/-- What is outside of some paths is outside of fewer. -/
theorem isWithinAny_eq_false_of_subset {path : String} {parents others : List String}
    (hsub : parents ⊆ others) (h : isWithinAny path others = false) :
    isWithinAny path parents = false := by
  simp only [isWithinAny, List.any_eq_false] at h ⊢
  exact fun parent hparent => h parent (hsub hparent)

/-! ## Containers -/

theorem mem_properStarts {xs ys : List String} :
    xs ∈ properStarts ys ↔ xs ≠ [] ∧ xs <+: ys ∧ xs ≠ ys := by
  induction ys generalizing xs with
  | nil => simp [properStarts]
  | cons y ys ih =>
    cases ys with
    | nil =>
      cases xs with
      | nil => simp [properStarts]
      | cons x xs => simp [properStarts, List.cons_prefix_cons]
    | cons z zs =>
      cases xs with
      | nil => simp [properStarts]
      | cons x xs =>
        simp only [properStarts, List.mem_cons, List.cons.injEq, List.mem_map,
          List.cons_prefix_cons]
        constructor
        · rintro (⟨rfl, rfl⟩ | ⟨start, hstart, rfl, rfl⟩)
          · simp
          · obtain ⟨hne, hpre, hneq⟩ := ih.1 hstart
            simp [hpre, hneq]
        · rintro ⟨-, ⟨rfl, hpre⟩, hneq⟩
          by_cases hx : xs = []
          · exact .inl ⟨rfl, hx⟩
          · exact .inr ⟨xs, ih.2 ⟨hx, hpre, fun e => hneq (by rw [e])⟩, rfl, rfl⟩

/-- The containers of a path are the paths of its proper starts. -/
theorem mem_ancestors_iff {ancestor path : String} :
    ancestor ∈ ancestors path ↔
      ∃ keys, keys ≠ [] ∧ keys <+: segments path ∧ keys ≠ segments path ∧
        ofSegments keys = ancestor := by
  simp [ancestors, mem_properStarts, and_assoc]

end FieldGuard.Path
