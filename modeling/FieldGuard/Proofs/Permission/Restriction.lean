import FieldGuard.Permission.Reduction
import FieldGuard.Proofs.Document.Nesting

/-!
# Denied and restricted paths

The paths of a twin that are denied to an actor, and what withholding the outermost of them comes
to:

* `Twin.mem_deniedPaths_iff`: a path is denied if it requires a token that the actor lacks;
* `Actor.isWithinAny_restrictedPaths_iff`: a leaf is withheld exactly if it lies within a denied
  path;
* `reduce_records`: reducing a selection redacts each record, with no case apart for twins that
  require nothing;
* `Actor.mem_flatten_redact_restrictedPaths`: a redacted record has no leaf within a denied path.
-/

namespace FieldGuard

/-! ## Denied paths -/

namespace Twin

variable {twin : Twin} {flat : Document} {member : Member} {operation : Operation} {path : String}

/-- The paths that require a token which the member lacks. -/
def deniedPaths (twin : Twin) (member : Member) (operation : Operation) : List String :=
  (twin.fields.entries.filter fun field => !member.grants (field.2.required operation)).map Prod.fst

theorem get?_eq_some_iff_mem {triple : Triple} :
    twin.get? path = some triple ↔ (path, triple) ∈ twin.fields.entries :=
  Dict.get?_eq_some_iff_mem twin.fields.hasDistinctKeys

/-- A path is denied if it requires a token that the member lacks. -/
theorem mem_deniedPaths_iff : path ∈ twin.deniedPaths member operation ↔
    ∃ triple, twin.get? path = some triple ∧
      ∃ token ∈ triple.required operation, token ∉ member.tokens := by
  simp [deniedPaths, get?_eq_some_iff_mem, Member.grants]

theorem deniedPaths_of_isOpen (h : twin.isOpen = true) :
    twin.deniedPaths member operation = [] := by
  rw [deniedPaths, List.map_eq_nil_iff, List.filter_eq_nil_iff]
  intro field hfield
  have hopen := List.all_eq_true.1 h field hfield
  simp only [Triple.isOpen, Bool.and_eq_true, List.isEmpty_iff] at hopen
  cases operation <;> simp [Triple.required, Member.grants, hopen]

/-! ## Collecting the outermost paths -/

theorem subset_collectRestricted (restricted : List String) (fields : List (String × Triple)) :
    restricted ⊆ collectRestricted flat member operation restricted fields := by
  induction fields generalizing restricted with
  | nil => exact List.Subset.refl _
  | cons field rest ih =>
    unfold collectRestricted
    split
    · exact ih _
    · split
      · exact List.Subset.trans (List.subset_append_left _ _) (ih _)
      · exact ih _

/-- Which paths are withheld depends on the paths of the leaves only. -/
theorem collectRestricted_congr {other : Document} (h : Dict.keys flat = Dict.keys other)
    (restricted : List String) (fields : List (String × Triple)) :
    collectRestricted flat member operation restricted fields =
      collectRestricted other member operation restricted fields := by
  have hholds : Document.holdsWithin flat = Document.holdsWithin other := by
    funext path
    rw [Document.holdsWithin, Document.holdsWithin, h]
  induction fields generalizing restricted with
  | nil => rfl
  | cons field rest ih => simp only [collectRestricted, hholds, ih]

/-- What is collected is denied and holds something. -/
theorem mem_collectRestricted {restricted : List String} {fields : List (String × Triple)}
    (h : path ∈ collectRestricted flat member operation restricted fields) :
    path ∈ restricted ∨ Document.holdsWithin flat path = true ∧
      ∃ triple, (path, triple) ∈ fields ∧ member.grants (triple.required operation) = false := by
  induction fields generalizing restricted with
  | nil => exact .inl h
  | cons field rest ih =>
    have hlater : ∀ {restricted'}, path ∈ collectRestricted flat member operation restricted' rest →
        path ∈ restricted' ∨ Document.holdsWithin flat path = true ∧ ∃ triple,
          (path, triple) ∈ field :: rest ∧ member.grants (triple.required operation) = false :=
      fun h => (ih h).imp_right fun ⟨hholds, triple, hmem, hdenied⟩ =>
        ⟨hholds, triple, List.mem_cons_of_mem _ hmem, hdenied⟩
    unfold collectRestricted at h
    split at h
    · exact hlater h
    · split at h
      · rename_i hdenied
        simp only [Bool.and_eq_true, Bool.not_eq_true'] at hdenied
        rcases hlater h with h | h
        · rcases List.mem_append.1 h with h | h
          · exact .inl h
          · rw [List.mem_singleton] at h
            exact .inr ⟨h ▸ hdenied.1, field.2, h ▸ List.mem_cons_self, hdenied.2⟩
        · exact .inr h
      · exact hlater h

/-- A denied path that holds something is collected, or lies within a collected one. -/
theorem isWithinAny_collectRestricted (restricted : List String) {fields : List (String × Triple)}
    {triple : Triple} (hmem : (path, triple) ∈ fields)
    (hdenied : member.grants (triple.required operation) = false)
    (hholds : Document.holdsWithin flat path = true) :
    Path.isWithinAny path (collectRestricted flat member operation restricted fields) = true := by
  induction fields generalizing restricted with
  | nil => simp at hmem
  | cons field rest ih =>
    unfold collectRestricted
    rcases List.mem_cons.1 hmem with rfl | hmem
    · split
      · rename_i hwithin
        obtain ⟨parent, hparent, hpath⟩ := Path.isWithinAny_iff.1 hwithin
        exact Path.isWithinAny_iff.2 ⟨parent, subset_collectRestricted _ _ hparent, hpath⟩
      · rw [if_pos (by simp [hholds, hdenied])]
        exact Path.isWithinAny_iff.2
          ⟨path, subset_collectRestricted _ _ (by simp), Path.isWithin_refl path⟩
    · split
      · exact ih _ hmem
      · split
        · exact ih _ hmem
        · exact ih _ hmem

theorem mem_restrictedPaths (h : path ∈ twin.restrictedPaths flat member operation) :
    path ∈ twin.deniedPaths member operation ∧ Document.holdsWithin flat path = true := by
  rcases mem_collectRestricted h with h | ⟨hholds, triple, hmem, hdenied⟩
  · simp at h
  · exact ⟨List.mem_map.2 ⟨_, List.mem_filter.2 ⟨hmem, by simp [hdenied]⟩, rfl⟩, hholds⟩

theorem isWithinAny_restrictedPaths (h : path ∈ twin.deniedPaths member operation)
    (hholds : Document.holdsWithin flat path = true) :
    Path.isWithinAny path (twin.restrictedPaths flat member operation) = true := by
  obtain ⟨field, hfield, rfl⟩ := List.mem_map.1 h
  obtain ⟨hmem, hdenied⟩ := List.mem_filter.1 hfield
  exact isWithinAny_collectRestricted [] hmem (by simpa using hdenied) hholds

end Twin

/-! ## Actors -/

namespace Actor

variable {actor : Actor} {twin : Twin} {flat : Document} {operation : Operation} {path : String}

/-- The paths of a twin that are denied to an actor: none to the superadmin. -/
def deniedPaths (actor : Actor) (twin : Twin) (operation : Operation) : List String :=
  match actor with
  | superadmin => []
  | member m => twin.deniedPaths m operation

/-- The outermost denied paths that hold something in a flat record. -/
def restrictedPaths (actor : Actor) (twin : Twin) (flat : Document) (operation : Operation) :
    List String :=
  match actor with
  | superadmin => []
  | member m => twin.restrictedPaths flat m operation

theorem mem_restrictedPaths (h : path ∈ actor.restrictedPaths twin flat operation) :
    path ∈ actor.deniedPaths twin operation ∧ Document.holdsWithin flat path = true := by
  cases actor with
  | superadmin => simp [restrictedPaths] at h
  | member m => exact Twin.mem_restrictedPaths h

theorem isWithinAny_restrictedPaths (h : path ∈ actor.deniedPaths twin operation)
    (hholds : Document.holdsWithin flat path = true) :
    Path.isWithinAny path (actor.restrictedPaths twin flat operation) = true := by
  cases actor with
  | superadmin => simp [deniedPaths] at h
  | member m => exact Twin.isWithinAny_restrictedPaths h hholds

theorem restrictedPaths_congr (actor : Actor) (twin : Twin) (operation : Operation)
    {other : Document} (h : Dict.keys flat = Dict.keys other) :
    actor.restrictedPaths twin flat operation = actor.restrictedPaths twin other operation := by
  cases actor with
  | superadmin => rfl
  | member m => exact Twin.collectRestricted_congr h _ _

/-- Nothing is restricted if no denied path holds anything. -/
theorem restrictedPaths_eq_nil_iff : actor.restrictedPaths twin flat operation = [] ↔
    ∀ path ∈ actor.deniedPaths twin operation, Document.holdsWithin flat path = false := by
  constructor
  · intro hnil path hpath
    by_contra hholds
    have hwithin := isWithinAny_restrictedPaths hpath (by simpa using hholds)
    rw [hnil] at hwithin
    cases hwithin
  · intro h
    refine List.eq_nil_iff_forall_not_mem.2 fun path hpath => ?_
    obtain ⟨hdenied, hholds⟩ := mem_restrictedPaths hpath
    rw [h path hdenied] at hholds
    cases hholds

/-- What lies within restricted paths lies within denied paths that hold something. -/
theorem isWithinAny_restrictedPaths_eq (actor : Actor) (twin : Twin) (flat : Document)
    (operation : Operation) (path : String) :
    Path.isWithinAny path (actor.restrictedPaths twin flat operation) =
      Path.isWithinAny path ((actor.deniedPaths twin operation).filter fun denied =>
        Document.holdsWithin flat denied) := by
  rw [Bool.eq_iff_iff, Path.isWithinAny_iff, Path.isWithinAny_iff]
  constructor
  · rintro ⟨parent, hparent, hpath⟩
    exact ⟨parent, List.mem_filter.2 (mem_restrictedPaths hparent), hpath⟩
  · rintro ⟨parent, hparent, hpath⟩
    obtain ⟨hdenied, hholds⟩ := List.mem_filter.1 hparent
    obtain ⟨outer, houter, hwithin⟩ :=
      Path.isWithinAny_iff.1 (isWithinAny_restrictedPaths hdenied hholds)
    exact ⟨outer, houter, Path.isWithin_trans hpath hwithin⟩

/-- A leaf is withheld exactly if it lies within a denied path. -/
theorem isWithinAny_restrictedPaths_iff (h : path ∈ Dict.keys flat) :
    Path.isWithinAny path (actor.restrictedPaths twin flat operation) =
      Path.isWithinAny path (actor.deniedPaths twin operation) := by
  rw [isWithinAny_restrictedPaths_eq, Bool.eq_iff_iff, Path.isWithinAny_iff, Path.isWithinAny_iff]
  constructor
  · rintro ⟨parent, hparent, hpath⟩
    exact ⟨parent, List.mem_of_mem_filter hparent, hpath⟩
  · rintro ⟨parent, hparent, hpath⟩
    exact ⟨parent, List.mem_filter.2 ⟨hparent, List.any_eq_true.2 ⟨path, h, hpath⟩⟩, hpath⟩

theorem withoutPaths_restrictedPaths (actor : Actor) (twin : Twin) (flat : Document)
    (operation : Operation) :
    Document.withoutPaths flat (actor.restrictedPaths twin flat operation) =
      Document.withoutPaths flat (actor.deniedPaths twin operation) :=
  List.filter_congr fun _ hleaf => by
    rw [isWithinAny_restrictedPaths_iff (Dict.mem_keys_of_mem hleaf)]

/-- A record redacted for an actor has no leaf within a path denied to the actor. -/
theorem mem_flatten_redact_restrictedPaths {d : Document} {leaf : String × Value}
    (h : leaf ∈ Document.flatten
      (Document.redact d (actor.restrictedPaths twin (Document.flatten d) operation))) :
    leaf ∈ Document.flatten d ∧
      Path.isWithinAny leaf.1 (actor.deniedPaths twin operation) = false := by
  obtain ⟨hmem, hfree⟩ := Document.mem_flatten_redact h
  rw [isWithinAny_restrictedPaths_iff (Dict.mem_keys_of_mem hmem)] at hfree
  exact ⟨hmem, hfree⟩

/-! ## Reduction -/

/-- An entry as an actor may see it for an operation. -/
def redactEntry (actor : Actor) (operation : Operation) (entry : Entry) : Redacted :=
  let paths := actor.restrictedPaths entry.permissions (Document.flatten entry.record) operation
  ⟨entry.id, Document.redact entry.record paths, paths⟩

theorem redact_nil (d : Document) : Document.redact d [] = d := rfl

/-- A twin that requires nothing is no case apart. -/
theorem redactEntry_member (m : Member) (operation : Operation) (entry : Entry) :
    Reduction.redactEntry m operation entry = (member m).redactEntry operation entry := by
  unfold Reduction.redactEntry redactEntry restrictedPaths
  split
  · rename_i hopen
    have hnil : entry.permissions.restrictedPaths (Document.flatten entry.record) m operation =
        [] :=
      List.eq_nil_iff_forall_not_mem.2 fun path hpath => by
        have := (Twin.mem_restrictedPaths hpath).1
        rw [Twin.deniedPaths_of_isOpen hopen] at this
        simp at this
    simp only [hnil, redact_nil]
    rfl
  · simp only [Document.redact, Reduction.passThrough]
    split
    · rename_i hempty
      rw [List.isEmpty_iff.1 hempty]
    · rfl

end Actor

theorem reduce_records (actor : Actor) (selection : Selection) (operation : Operation) :
    (reduce actor selection operation).records =
      selection.entries.map (actor.redactEntry operation) := by
  cases actor with
  | superadmin => rfl
  | member m => exact List.map_congr_left fun entry _ => Actor.redactEntry_member m operation entry

/-- A reduction depends on what the actor may see of each entry. -/
theorem reduce_congr {actor : Actor} {selection other : Selection} {operation : Operation}
    (h : selection.entries.map (actor.redactEntry operation) =
      other.entries.map (actor.redactEntry operation))
    (hlimited : selection.isLimited = other.isLimited) :
    reduce actor selection operation = reduce actor other operation := by
  have hrecords : (reduce actor selection operation).records =
      (reduce actor other operation).records := by
    rw [reduce_records, reduce_records, h]
  cases actor with
  | superadmin =>
    simp only [reduce] at hrecords ⊢
    rw [hrecords, hlimited]
  | member m =>
    simp only [reduce] at hrecords ⊢
    rw [hrecords, hlimited]

end FieldGuard
