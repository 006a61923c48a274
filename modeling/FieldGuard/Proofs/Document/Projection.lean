import FieldGuard.Proofs.Document.Pruning
import FieldGuard.Proofs.Document.RoundTrip
import FieldGuard.Proofs.Path.Outermost

/-!
# Projections

A projection selects leaves. Of the paths asked for only the outermost ones are looked at, which
hold all that the others hold, so neither the order of the paths nor any repetition matters.

* `projectFlat_eq_filter`: what is kept of a flat document are the leaves within one of the paths;
* `flatten_project`: so it is of the leaves of a document without dots in names;
* `project_project`: projecting twice is projecting once, whatever the names are: what is built from
  the leaves kept has no dots in names any more;
* `project_selects_leaves`: all of it together.
-/

namespace FieldGuard

namespace Document

variable {d flat : Document} {paths : List String}

/-! ## Flat documents -/

/-- What is kept of a flat document are the leaves within one of the paths. -/
theorem projectFlat_eq_filter (flat : Document) (h : paths ≠ []) :
    projectFlat flat paths = flat.filter fun leaf => Path.isWithinAny leaf.1 paths := by
  rw [projectFlat, if_neg (by simpa using h)]
  exact List.filter_congr fun leaf _ => Path.isWithinAny_outermost leaf.1 paths

/-- Asking for the outermost paths only makes no difference. -/
theorem projectFlat_outermost (flat : Document) (paths : List String) :
    projectFlat flat (Path.outermost paths) = projectFlat flat paths := by
  by_cases h : paths = []
  · rw [h]
    rfl
  · rw [projectFlat_eq_filter flat (Path.outermost_ne_nil h), projectFlat_eq_filter flat h]
    exact List.filter_congr fun leaf _ => Path.isWithinAny_outermost leaf.1 paths

/-- Neither the order of the paths nor their repetition matters. -/
theorem projectFlat_congr (flat : Document) {others : List String}
    (h : ∀ path, path ∈ others ↔ path ∈ paths) :
    projectFlat flat others = projectFlat flat paths := by
  by_cases hnil : paths = []
  · have hothers : others = [] := List.eq_nil_iff_forall_not_mem.2 fun path hpath => by
      simpa [hnil] using (h path).1 hpath
    rw [hnil, hothers]
  have hothers : others ≠ [] := by
    obtain ⟨path, hpath⟩ := List.exists_mem_of_ne_nil paths hnil
    exact List.ne_nil_of_mem ((h path).2 hpath)
  rw [projectFlat_eq_filter flat hothers, projectFlat_eq_filter flat hnil]
  exact List.filter_congr fun leaf _ => Path.isWithinAny_congr h leaf.1

/-! ## Documents -/

theorem project_eq_nest (d : Document) (h : paths ≠ []) :
    project d paths = nest ((flatten d).filter fun leaf => Path.isWithinAny leaf.1 paths) := by
  rw [project, if_neg (by simpa using h), projectFlat_eq_filter _ h]

/-- Without dots in names, the leaves of a projection are those kept, in order. -/
theorem flatten_project (hfree : DotFree d) (hd : DistinctKeys d) (h : paths ≠ []) :
    flatten (project d paths) =
      (flatten d).filter fun leaf => Path.isWithinAny leaf.1 paths := by
  rw [project_eq_nest d h, nest_filter_flatten hfree hd fun path => Path.isWithinAny path paths,
    filter_flatten hfree hd fun path => Path.isWithinAny path paths,
    flatten_eq_map_branches (dotFree_prune _ hfree) (distinctKeys_prune _ hd)]

/-- Projecting twice is projecting once. -/
theorem project_project (hd : DistinctKeys d) (paths : List String) :
    project (project d paths) paths = project d paths := by
  by_cases h : paths = []
  · rw [h]
    rfl
  rw [project_eq_nest _ h, project_eq_nest d h]
  exact nest_filter_flatten_nest hd fun leaf => Path.isWithinAny leaf.1 paths

/-- A projection is a selection of leaves, and idempotent. Of every flat document it keeps, in
order, the leaves within one of the paths, so that leaving out paths within others first changes
nothing, and neither does the order of the paths. Without dots in field names, the leaves of a
projected document are selected in the same way. And whatever the names are, projecting what was
projected to the same paths changes nothing. -/
theorem project_selects_leaves :
    (∀ (flat : Document) (paths : List String), paths ≠ [] →
      projectFlat flat paths =
          flat.filter (fun leaf => paths.any fun path => Path.isWithin leaf.1 path) ∧
        projectFlat flat (Path.outermost paths) = projectFlat flat paths ∧
        ∀ others, (∀ path, path ∈ others ↔ path ∈ paths) →
          projectFlat flat others = projectFlat flat paths) ∧
    (∀ (d : Document) (paths : List String), DotFree d → DistinctKeys d → paths ≠ [] →
      flatten (project d paths) =
        (flatten d).filter fun leaf => paths.any fun path => Path.isWithin leaf.1 path) ∧
    ∀ (d : Document) (paths : List String), DistinctKeys d →
      project (project d paths) paths = project d paths :=
  ⟨fun flat _ h => ⟨projectFlat_eq_filter flat h, projectFlat_outermost flat _,
      fun _ hothers => projectFlat_congr flat hothers⟩,
    fun _ _ hfree hd h => flatten_project hfree hd h,
    fun _ paths hd => project_project hd paths⟩

/-- Paths within one another, twice and unknown, asked of a document whose names start alike and of
one in which a name with a dot hides another field. -/
theorem project_selects_leaves_data :
    let paths := ["data.age", "data", "nope", "data"]
    let others := ["nope", "data.age", "data"]
    let d : Document := [("name", .string "Ann"), ("database", .null),
      ("data", .document [("city", .string "Lyon"), ("age", .int32 3)])]
    let hidden : Document := [("data", .int32 1), ("name", .string "Ann"), ("data.age", .int32 3)]
    paths ≠ [] ∧ d.DotFree ∧ d.DistinctKeys ∧ hidden.DistinctKeys ∧
      projectFlat (flatten d) paths = [("data.city", .string "Lyon"), ("data.age", .int32 3)] ∧
      projectFlat (flatten d) others = projectFlat (flatten d) paths ∧
      flatten (project d paths) = [("data.city", .string "Lyon"), ("data.age", .int32 3)] ∧
      project hidden paths = [("data", .document [("age", .int32 3)])] ∧
      project (project hidden paths) paths = project hidden paths := by
  intro paths others d hidden
  have hpaths : paths ≠ [] := List.cons_ne_nil _ _
  have hothers : ∀ path, path ∈ others ↔ path ∈ paths := by
    simp only [paths, others, List.mem_cons]
    grind
  have hfree : d.DotFree := by
    simp [d, DotFree, Value.DotFree, Value.FieldsDotFree]
  have hd : d.DistinctKeys := by
    simp [d, DistinctKeys, Value.DistinctKeys, Value.FieldsDistinctKeys]
  have hhidden : hidden.DistinctKeys := by
    simp [hidden, DistinctKeys, Value.DistinctKeys, Value.FieldsDistinctKeys]
  obtain ⟨hflat, hdocument, htwice⟩ := project_selects_leaves
  obtain ⟨hkept, -, horder⟩ := hflat (flatten d) paths hpaths
  exact ⟨hpaths, hfree, hd, hhidden, hkept.trans rfl, horder others hothers,
    (hdocument d paths hfree hd hpaths).trans rfl, rfl, htwice hidden paths hhidden⟩

end Document

end FieldGuard
