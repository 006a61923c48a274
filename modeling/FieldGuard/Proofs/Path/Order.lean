import FieldGuard.Permission
import FieldGuard.Proofs.Dict
import FieldGuard.Proofs.Path.Outermost
import FieldGuard.Proofs.Text.Bytes
import Mathlib.Data.List.Sort

/-!
# Containment as an order of paths

Containment looks at the characters of two paths only. It is the order of their segments all the
same, whatever names the paths are made of: empty ones, or ones that go on after another name.

* `Path.segments_eq_splitOn`: the segments of a path are what lies between its dots;
* `Path.isWithin_total_of_isWithin`: what holds a path lies in line, each within the next;
* `SortedDict.sublist_keys`: the smaller one of two keys comes first;
* `Path.containment_order`: containment as an order, in agreement with that of bytes.
-/

namespace FieldGuard

/-- Of two keys of a sorted dictionary, the smaller one comes first. -/
theorem SortedDict.sublist_keys {α : Type} {d : SortedDict α} {a b : String} (ha : a ∈ d.keys)
    (hb : b ∈ d.keys) (h : a < b) : [a, b].Sublist d.keys := by
  have hne : a ≠ b := fun e => String.lt_irrefl b (e ▸ h)
  have hboth : [a, b] ⊆ d.keys := by simp [ha, hb]
  have hpair : [a, b].Pairwise (· < ·) := by simpa using h
  exact List.sublist_of_subperm_of_pairwise (List.subperm_of_subset (by simp [hne]) hboth) hpair
    d.pairwise_keys

namespace Path

/-! ## Segments and dots -/

theorem splitDots_eq_splitOn (cs : List Char) : splitDots cs = cs.splitOn '.' := by
  induction cs with
  | nil => rfl
  | cons c cs ih =>
    rw [List.splitOn_cons_eq_if_modifyHead, ← ih]
    by_cases hc : c = '.'
    · subst hc
      rfl
    · obtain ⟨first, more, hs⟩ := List.exists_cons_of_ne_nil (splitDots_ne_nil cs)
      rw [splitDots_cons hc hs, hs, if_neg (by simpa using hc), List.modifyHead_cons]

/-- The segments of a path are what lies between its dots, in order. -/
theorem segments_eq_splitOn (path : String) :
    segments path = (path.toList.splitOn '.').map String.ofList := by
  rw [segments, splitDots_eq_splitOn]

/-! ## The order -/

/-- Of two paths that hold a third one, one holds the other. -/
theorem isWithin_total_of_isWithin {path first second : String}
    (hfirst : isWithin path first = true) (hsecond : isWithin path second = true) :
    isWithin first second = true ∨ isWithin second first = true := by
  rw [isWithin_iff] at hfirst hsecond ⊢
  rw [isWithin_iff]
  exact List.prefix_or_prefix_of_prefix hsecond hfirst

/-- A path lies within another one exactly if its segments, which are what lies between its dots,
start with those of the other. So containment is an order, in which the paths that hold a given one
lie in line and a joined path lies within its container. A container has the smaller bytes, and a
dictionary in key order has it first. -/
theorem containment_order :
    (∀ path, segments path = (path.toList.splitOn '.').map String.ofList) ∧
    (∀ path parent, isWithin path parent = true ↔ segments parent <+: segments path) ∧
    (∀ path, isWithin path path = true) ∧
    (∀ path other, isWithin path other = true → isWithin other path = true → path = other) ∧
    (∀ path parent outer, isWithin path parent = true → isWithin parent outer = true →
      isWithin path outer = true) ∧
    (∀ path first second, isWithin path first = true → isWithin path second = true →
      isWithin first second = true ∨ isWithin second first = true) ∧
    (∀ container key, isWithin (join (some container) key) container = true) ∧
    ∀ path parent, isWithin path parent = true → path ≠ parent →
      Text.bytes parent < Text.bytes path ∧
        ∀ fields : SortedDict Triple, parent ∈ fields.keys → path ∈ fields.keys →
          [parent, path].Sublist fields.keys := by
  refine ⟨segments_eq_splitOn, fun _ _ => isWithin_iff, isWithin_refl, fun _ _ => isWithin_antisymm,
    fun _ _ _ => isWithin_trans, fun _ _ _ => isWithin_total_of_isWithin, isWithin_join, ?_⟩
  intro path parent hwithin hne
  have hlt : parent < path := lt_of_isWithin hwithin hne
  exact ⟨Text.bytes_lt_bytes hlt, fun fields hparent hpath =>
    SortedDict.sublist_keys hparent hpath hlt⟩

/-- Paths with an empty segment and with a letter of two bytes, in a dictionary that also has a name
which only starts like theirs and comes between them. -/
theorem containment_order_data :
    let fields : SortedDict Triple :=
      .ofList [("data..größe", {}), ("data", {}), ("data.", {}), ("data-x", {})]
    segments "data..größe" = ["data", "", "größe"] ∧
      isWithin "data-x" "data" = false ∧
      isWithin "data..größe" "data." = true ∧
      isWithin "data." "data" = true ∧
      isWithin "data..größe" "data" = true ∧
      isWithin "data" "data." = false ∧
      (isWithin "data." "data" = true ∨ isWithin "data" "data." = true) ∧
      isWithin (join (some "data.") "größe") "data." = true ∧
      Text.bytes "data." < Text.bytes "data..größe" ∧
      "data." ∈ fields.keys ∧ "data..größe" ∈ fields.keys ∧
      ["data.", "data..größe"].Sublist fields.keys ∧
      fields.keys = ["data", "data-x", "data.", "data..größe"] := by
  intro fields
  have hinner : isWithin "data..größe" "data." = true := by decide
  have houter : isWithin "data." "data" = true := by decide
  have hkeys : fields.keys = ["data", "data-x", "data.", "data..größe"] := by decide
  have hparent : "data." ∈ fields.keys := by simp [hkeys]
  have hpath : "data..größe" ∈ fields.keys := by simp [hkeys]
  obtain ⟨-, -, -, hantisymm, htrans, htotal, hjoin, hbefore⟩ := containment_order
  have hall : isWithin "data..größe" "data" = true := htrans _ _ _ hinner houter
  have hback : isWithin "data" "data." = false :=
    Bool.eq_false_iff.2 fun h => absurd (hantisymm _ _ h houter) (by decide)
  obtain ⟨hbytes, hfirst⟩ := hbefore _ _ hinner (by decide)
  exact ⟨by decide, by decide, hinner, houter, hall, hback, htotal _ _ _ hinner hall,
    hjoin _ _, hbytes, hparent, hpath, hfirst fields hparent hpath, hkeys⟩

end Path

end FieldGuard
