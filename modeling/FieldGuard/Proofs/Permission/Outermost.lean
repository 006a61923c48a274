import FieldGuard.Proofs.Path.Outermost
import FieldGuard.Proofs.Permission.Restriction
import FieldGuard.Proofs.Text.Bytes
import Mathlib.Data.List.Pairwise

/-!
# Restricted paths are the outermost denied ones

The restricted paths of a record are collected in one pass over its twin, which compares each path
with those collected before it only. This is enough because a container comes before what it holds,
whatever stands between the two.

* `Twin.Denies`: the twin denies a member a path at or below which the record holds something;
* `Twin.pairwise_restrictedPaths`: the restricted paths ascend, and none lies within another one;
* `Twin.restrictedPaths_outermost`: they are the outermost ones of the paths denied.
-/

namespace FieldGuard.Twin

variable {twin : Twin} {flat : Document} {member : Member} {operation : Operation}
  {path other : String}

/-- The path requires a token that the member lacks, and the record holds something at or below
it. -/
def Denies (twin : Twin) (flat : Document) (member : Member) (operation : Operation)
    (path : String) : Prop :=
  (∃ triple, twin.get? path = some triple ∧
    ∃ token ∈ triple.required operation, token ∉ member.tokens) ∧
  ∃ key ∈ Dict.keys flat, Path.isWithin key path = true

theorem denies_iff : twin.Denies flat member operation path ↔
    path ∈ twin.deniedPaths member operation ∧ Document.holdsWithin flat path = true := by
  rw [Denies, mem_deniedPaths_iff, Document.holdsWithin, List.any_eq_true]

theorem denies_of_mem_restrictedPaths (h : path ∈ twin.restrictedPaths flat member operation) :
    twin.Denies flat member operation path :=
  denies_iff.2 (mem_restrictedPaths h)

/-- A path that is denied lies within a restricted one. -/
theorem Denies.exists_restricted (h : twin.Denies flat member operation path) :
    ∃ root ∈ twin.restrictedPaths flat member operation, Path.isWithin path root = true := by
  obtain ⟨hdenied, hholds⟩ := denies_iff.1 h
  exact Path.isWithinAny_iff.1 (isWithinAny_restrictedPaths hdenied hholds)

/-! ## One pass -/

/-- What is collected ascends, and no path lies within an earlier one. What is left to go through
comes after all that is collected. -/
theorem pairwise_collectRestricted {restricted : List String} {fields : List (String × Triple)}
    (hfields : fields.Pairwise (·.1 < ·.1))
    (hlater : ∀ path ∈ restricted, ∀ field ∈ fields, path < field.1)
    (h : restricted.Pairwise fun a b => a < b ∧ Path.isWithin b a = false) :
    (collectRestricted flat member operation restricted fields).Pairwise
      fun a b => a < b ∧ Path.isWithin b a = false := by
  induction fields generalizing restricted with
  | nil => exact h
  | cons field rest ih =>
    obtain ⟨hfirst, hrest⟩ := List.pairwise_cons.1 hfields
    have hskip : ∀ path ∈ restricted, ∀ field ∈ rest, path < field.1 :=
      fun path hpath field hfield => hlater path hpath field (List.mem_cons_of_mem _ hfield)
    unfold collectRestricted
    split
    · exact ih hrest hskip h
    · rename_i hout
      split
      · refine ih hrest ?_ (List.pairwise_append.2 ⟨h, List.pairwise_singleton _ _, ?_⟩)
        · intro path hpath later hmem
          rcases List.mem_append.1 hpath with hpath | hpath
          · exact hskip path hpath later hmem
          · rw [List.mem_singleton.1 hpath]
            exact hfirst later hmem
        · intro path hpath new hnew
          rw [List.mem_singleton.1 hnew]
          refine ⟨hlater path hpath field List.mem_cons_self, ?_⟩
          simp only [Path.isWithinAny, List.any_eq_true, not_exists, not_and,
            Bool.not_eq_true] at hout
          exact hout path hpath
      · exact ih hrest hskip h

theorem pairwise_restrictedPaths (twin : Twin) (flat : Document) (member : Member)
    (operation : Operation) :
    (twin.restrictedPaths flat member operation).Pairwise
      fun a b => a < b ∧ Path.isWithin b a = false :=
  pairwise_collectRestricted twin.fields.sorted (by simp) .nil

theorem nodup_restrictedPaths (twin : Twin) (flat : Document) (member : Member)
    (operation : Operation) : (twin.restrictedPaths flat member operation).Nodup := by
  refine (pairwise_restrictedPaths twin flat member operation).imp fun h e => ?_
  rw [e] at h
  exact String.lt_irrefl _ h.1

/-- No restricted path lies within another one: not within an earlier one, as that was collected
before it, and not within a later one, as containers come first. -/
theorem eq_of_isWithin_restrictedPaths (h : path ∈ twin.restrictedPaths flat member operation)
    (ho : other ∈ twin.restrictedPaths flat member operation)
    (hwithin : Path.isWithin path other = true) : path = other := by
  let Apart (a b : String) : Prop := Path.isWithin a b = false ∧ Path.isWithin b a = false
  have hsymm : Std.Symm Apart := ⟨fun _ _ => And.symm⟩
  have happart : (twin.restrictedPaths flat member operation).Pairwise Apart := by
    refine (pairwise_restrictedPaths twin flat member operation).imp fun {a b} ⟨hlt, hout⟩ => ?_
    refine ⟨Bool.eq_false_iff.2 fun hwithin => ?_, hout⟩
    by_cases hne : a = b
    · exact String.lt_irrefl a (hne ▸ hlt)
    · exact String.lt_asymm hlt (Path.lt_of_isWithin hwithin hne)
  by_contra hne
  have hout := (happart.forall h ho hne).1
  rw [hwithin] at hout
  cases hout

/-- The restricted paths are those denied paths that lie within no other denied one. -/
theorem mem_restrictedPaths_iff : path ∈ twin.restrictedPaths flat member operation ↔
    twin.Denies flat member operation path ∧
      ∀ other, twin.Denies flat member operation other → Path.isWithin path other = true →
        other = path := by
  constructor
  · intro h
    refine ⟨denies_of_mem_restrictedPaths h, fun other hother hwithin => ?_⟩
    obtain ⟨root, hroot, hlast⟩ := hother.exists_restricted
    obtain rfl := eq_of_isWithin_restrictedPaths h hroot (Path.isWithin_trans hwithin hlast)
    exact Path.isWithin_antisymm hlast hwithin
  · rintro ⟨hdenied, houtermost⟩
    obtain ⟨root, hroot, hwithin⟩ := hdenied.exists_restricted
    rwa [← houtermost root (denies_of_mem_restrictedPaths hroot) hwithin]

/-- For every twin, flat record, member and operation, the restricted paths are the denied paths
that lie strictly within no other denied one, in ascending order of their bytes and so each once.
None of them lies within another one, and what lies within a denied path lies within a restricted
one and the other way round. -/
theorem restrictedPaths_outermost (twin : Twin) (flat : Document) (member : Member)
    (operation : Operation) :
    let restricted := twin.restrictedPaths flat member operation
    let denies := twin.Denies flat member operation
    (∀ path, path ∈ restricted ↔
      denies path ∧ ∀ other, denies other → Path.isWithin path other = true → other = path) ∧
    restricted.Pairwise (fun a b => Text.bytes a < Text.bytes b) ∧
    (∀ path ∈ restricted, ∀ other ∈ restricted, Path.isWithin path other = true → path = other) ∧
    ∀ key ∈ Dict.keys flat,
      (∃ path ∈ restricted, Path.isWithin key path = true) ↔
        ∃ path, denies path ∧ Path.isWithin key path = true := by
  intro restricted denies
  refine ⟨fun path => mem_restrictedPaths_iff, ?_,
    fun path hpath other hother => eq_of_isWithin_restrictedPaths hpath hother,
    fun key _ => ⟨?_, ?_⟩⟩
  · exact (pairwise_restrictedPaths twin flat member operation).imp fun h =>
      Text.bytes_lt_bytes h.1
  · rintro ⟨path, hpath, hwithin⟩
    exact ⟨path, denies_of_mem_restrictedPaths hpath, hwithin⟩
  · rintro ⟨path, hpath, hwithin⟩
    obtain ⟨root, hroot, hlast⟩ := hpath.exists_restricted
    exact ⟨root, hroot, Path.isWithin_trans hwithin hlast⟩

/-- A container of which another token is required than of what it holds, between names that start
alike: `a-b` comes before `a.b`, and `a.b` before `a0`. -/
example :
    let twin := ((((Twin.empty "1").set "a" { read := ["x"] }).set "a-b" { read := ["y"] }).set
      "a.b" { read := ["y"] }).set "a0" {}
    let flat : Document := [("a.b.c", .null), ("a-b", .null), ("a0", .null)]
    twin.restrictedPaths flat ⟨"bob", []⟩ .read = ["a", "a-b"] ∧
      twin.restrictedPaths flat ⟨"eve", ["x"]⟩ .read = ["a-b", "a.b"] := by
  decide

end FieldGuard.Twin
