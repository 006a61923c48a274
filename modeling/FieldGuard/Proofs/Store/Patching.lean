import FieldGuard.Proofs.Document.Agreement
import FieldGuard.Proofs.Document.Overlap
import FieldGuard.Proofs.Record
import FieldGuard.Proofs.Store.Change

/-!
# What a patch may write

The part of a patch that an actor may write to a record without dots in field names is exactly the
replacement of leaves that `Actor.replacement?` describes: a leaf is replaced by what the patch
holds under its names if both are plain and the leaf is within no path denied for updates.

* `Document.fits_of_branch`, `Document.not_fits_below`, `Document.not_fits_document`: what fits a
  record, by where it stands in it;
* `replaces_permitted`: the permitted part of a patch replaces these leaves;
* `patched_eq`: so the record after a patch is the record with these leaves replaced in place;
* `leaf?_patched`: what this makes of the leaf at a path.
-/

namespace FieldGuard

namespace Document

open Value (isPlain)

variable {record : Document}

/-! ## What fits -/

theorem segments_ofSegments_of_branch (hfree : DotFree record) {front back : List String}
    {leaf : Value} (hne : front ≠ []) (h : (front ++ back, leaf) ∈ branches record) :
    Path.segments (Path.ofSegments front) = front :=
  Path.segments_ofSegments hne fun key hkey =>
    dot_not_mem_of_mem_branches hfree h key (List.mem_append_left _ hkey)

section

variable (hfree : DotFree record) (hd : DistinctKeys record)

include hfree hd

theorem lookup?_of_mem_branches {names : List String} {leaf : Value}
    (h : (names, leaf) ∈ branches record) :
    lookup? record (Path.ofSegments names) = some leaf := by
  have hnames := segments_names hfree h
  rw [lookup?_eq_walk? hfree, hnames]
  exact walk?_of_mem_branches hd h

/-- At a leaf that is no document, what is no document fits. -/
theorem fits_of_branch {names : List String} {leaf value : Value}
    (h : (names, leaf) ∈ branches record) (hleaf : leaf.isDocument = false)
    (hvalue : value.isDocument = false) : fits record (Path.ofSegments names) value = true := by
  have hnames := segments_names hfree h
  rw [fits, lookup?_of_mem_branches hfree hd h, Bool.and_eq_true, List.all_eq_true]
  constructor
  · intro ancestor hancestor
    obtain ⟨front, hne, ⟨back, hback⟩, hproper, rfl⟩ := Path.mem_ancestors_iff.1 hancestor
    rw [hnames] at hback hproper
    rw [← hback] at h
    have hrest : back ≠ [] := fun e => hproper (by rw [← hback, e, List.append_nil])
    obtain ⟨fields, hwalk⟩ := walk?_of_branch_append hd h hrest
    rw [lookup?_eq_walk? hfree, segments_ofSegments_of_branch hfree hne h, hwalk]
    rfl
  · cases leaf with
    | document _ => cases hleaf
    | _ => simp [hvalue]

/-- Nothing fits below a leaf that is no document. -/
theorem not_fits_below {front back : List String} {leaf : Value}
    (h : (front, leaf) ∈ branches record) (hleaf : leaf.isDocument = false) (hback : back ≠ [])
    (value : Value) : fits record (Path.ofSegments (front ++ back)) value = false := by
  have hne : front ≠ [] := names_ne_nil h
  have hpath : Path.segments (Path.ofSegments (front ++ back)) =
      front ++ back.flatMap Path.segments := by
    rw [Path.segments_ofSegments_flatMap (by simp [hne]), List.flatMap_append,
      Path.flatMap_segments (dot_not_mem_of_mem_branches hfree h)]
  have hancestor : Path.ofSegments front ∈ Path.ancestors (Path.ofSegments (front ++ back)) := by
    refine Path.mem_ancestors_iff.2 ⟨front, hne, ?_, ?_, rfl⟩
    · rw [hpath]
      exact List.prefix_append _ _
    · rw [hpath, Ne, List.self_eq_append_right, Path.flatMap_segments_eq_nil]
      exact hback
  have hlookup := lookup?_of_mem_branches hfree hd h
  have hall : (Path.ancestors (Path.ofSegments (front ++ back))).all
      (fun ancestor => (lookup? record ancestor).all Value.isDocument) = false :=
    List.all_eq_false.2 ⟨_, hancestor, by simp [hlookup, hleaf]⟩
  rw [fits, hall, Bool.false_and]

/-- Nothing fits where there is a document. -/
theorem not_fits_document {names back : List String} {leaf : Value} (hne : names ≠ [])
    (h : (names ++ back, leaf) ∈ branches record) (hdoc : back ≠ [] ∨ leaf.isDocument = true)
    (value : Value) : fits record (Path.ofSegments names) value = false := by
  have hwalk : ∃ fields, walk? record names = some (.document fields) := by
    by_cases hback : back = []
    · subst hback
      rw [List.append_nil] at h
      have hleaf := hdoc.resolve_left (by simp)
      cases leaf with
      | document fields => exact ⟨fields, walk?_of_mem_branches hd h⟩
      | _ => cases hleaf
    · exact walk?_of_branch_append hd h hback
  obtain ⟨fields, hwalk⟩ := hwalk
  have hlookup : lookup? record (Path.ofSegments names) = some (.document fields) := by
    rw [lookup?_eq_walk? hfree, segments_ofSegments_of_branch hfree hne h, hwalk]
  rw [fits, hlookup, Bool.and_false]

/-! ## Overlaps with a part of the record -/

variable {patch part : Document} (hpart : branches part ⊆ branches record)

include hpart

/-- What of an overlap fits the record stands at a plain value of the record and is the plain
value that the patch holds there. -/
theorem plain_of_mem_overlap {names : List String} {value : Value}
    (h : (names, value) ∈ branches (overlap patch part))
    (hfits : fits record (Path.ofSegments names) value = true) :
    ∃ leaf, (names, leaf) ∈ branches part ∧ leaf.isPlain = true ∧
      walk? patch names = some value ∧ value.isPlain = true := by
  have hne : names ≠ [] := names_ne_nil h
  cases overlapOrigin_of_mem h with
  | below front back old other names_eq mem plain walk defined inner =>
    obtain ⟨hdoc, -⟩ := Value.isPlain_iff.1 plain
    obtain rfl : names = front ++ back := names_eq
    have hback : back = [] := by
      by_contra hback
      rw [not_fits_below hfree hd (hpart mem) hdoc hback] at hfits
      cases hfits
    subst hback
    rw [List.append_nil] at *
    obtain rfl := eq_of_nil_mem_branches inner
    have hvalue : value.isDocument = false := by
      rw [fits, lookup?_of_mem_branches hfree hd (hpart mem)] at hfits
      cases old with
      | document _ => cases hdoc
      | _ => simpa using (Bool.and_eq_true_iff.1 hfits).2
    exact ⟨old, mem, plain, walk, Value.isPlain_iff.2 ⟨hvalue, defined⟩⟩
  | atDocument back old mem document =>
    rw [not_fits_document hfree hd hne (hpart mem) document] at hfits
    cases hfits

/-- No other branch of an overlap has the path of one at a plain value of the record. -/
theorem eq_of_mem_overlap {names others : List String} {leaf value other : Value}
    (h : (names, leaf) ∈ branches record) (hleaf : leaf.isPlain = true)
    (hwalk : walk? patch names = some value) (ho : (others, other) ∈ branches (overlap patch part))
    (hpath : Path.ofSegments others = Path.ofSegments names) : other = value := by
  have hnames := segments_names hfree h
  have hne : others ≠ [] := names_ne_nil ho
  rw [← hpath] at hnames
  cases overlapOrigin_of_mem ho with
  | below front back old below names_eq mem plain walk defined inner =>
    obtain rfl : others = front ++ back := names_eq
    rw [Path.segments_ofSegments_flatMap hne, List.flatMap_append,
      Path.flatMap_segments (dot_not_mem_of_mem_branches hfree (hpart mem))] at hnames
    -- Both are leaves of the record, so they are one, and nothing comes after it.
    have hsame := branch_unique hd (hpart mem) h ⟨_, hnames⟩
    obtain ⟨rfl, rfl⟩ := Prod.mk.inj hsame
    obtain rfl : back = [] := Path.flatMap_segments_eq_nil.1 (List.append_right_eq_self.1 hnames)
    obtain rfl := eq_of_nil_mem_branches inner
    exact Option.some.inj (walk.symm.trans hwalk)
  | atDocument back old mem document =>
    have hmem := hpart mem
    rw [segments_ofSegments_of_branch hfree hne hmem] at hnames
    obtain rfl : others = names := hnames
    have hsame := branch_unique hd h hmem (List.prefix_append _ _)
    obtain ⟨hback, rfl⟩ := Prod.mk.inj hsame
    have hnil : back = [] := List.append_right_eq_self.1 hback.symm
    have hdoc := document.resolve_left (fun e => e hnil)
    rw [(Value.isPlain_iff.1 hleaf).1] at hdoc
    cases hdoc

end

end Document

/-! ## What is permitted -/

open Document (AgreesBut DotFree DistinctKeys branches flatten leaf? overlap walk? fits
  Replaces)

/-- What a patch puts in the place of a leaf, as far as the actor may: the patch holds a plain
value there, the leaf is plain, and no path that it is within is denied for updates. -/
def Actor.replacement? (actor : Actor) (patch : Document) (twin : Twin) (names : List String)
    (leaf : Value) : Option Value :=
  (walk? (Record.content patch) names).filter fun new =>
    new.isPlain && leaf.isPlain &&
      !Path.isWithinAny (Path.ofSegments names) (actor.deniedPaths twin .update)

/-- Whether a patch replaces some leaf of an entry's record. -/
def Patches (actor : Actor) (patch : Document) (entry : Entry) : Prop :=
  ∃ leaf ∈ branches entry.record,
    (actor.replacement? patch entry.permissions leaf.1 leaf.2).isSome = true

/-- The leaves of a patch that an actor may write to an entry. -/
def permittedLeaves (actor : Actor) (patch : Document) (entry : Entry) : Document :=
  let redacted := actor.redactEntry .update entry
  (flatten (overlap (Record.content patch) redacted.record)).filter fun leaf =>
    !(redacted.restrictedPaths.any fun denied => Path.isWithin denied leaf.1)
      && fits entry.record leaf.1 leaf.2

theorem permitted_eq_nest (actor : Actor) (patch : Document) (entry : Entry) :
    permitted actor patch entry = Document.nest (permittedLeaves actor patch entry) := rfl

section

variable {actor : Actor} {patch : Document} {entry : Entry} {names : List String}
  {leaf new : Value}

theorem replacement?_eq_some {twin : Twin} :
    actor.replacement? patch twin names leaf = some new ↔
      walk? (Record.content patch) names = some new ∧ new.isPlain = true ∧ leaf.isPlain = true ∧
        Path.isWithinAny (Path.ofSegments names) (actor.deniedPaths twin .update) = false := by
  simp [Actor.replacement?, Option.filter_eq_some_iff, and_assoc]

variable (hfree : DotFree entry.record) (hd : DistinctKeys entry.record)

include hfree hd

theorem mem_branches_redactEntry :
    (names, leaf) ∈ branches (actor.redactEntry .update entry).record ↔
      (names, leaf) ∈ branches entry.record ∧
        Path.isWithinAny (Path.ofSegments names)
          (actor.deniedPaths entry.permissions .update) = false := by
  rw [Actor.redactEntry, Document.redact_eq_prune hfree hd, Document.branches_prune,
    List.mem_filter]
  refine and_congr_right fun hmem => ?_
  have hkey : Path.ofSegments names ∈ Dict.keys (flatten entry.record) :=
    Document.mem_keys_flatten.2 ⟨_, hmem, rfl⟩
  rw [Document.isOutside, Bool.not_eq_true', Actor.isWithinAny_restrictedPaths_iff hkey]

/-- No path withheld lies at or below a leaf that is not withheld. -/
theorem not_isWithin_of_mem {denied : String}
    (h : (names, leaf) ∈ branches (actor.redactEntry .update entry).record)
    (hdenied : denied ∈ (actor.redactEntry .update entry).restrictedPaths) :
    Path.isWithin denied (Path.ofSegments names) = false := by
  obtain ⟨hmem, houtside⟩ := (mem_branches_redactEntry hfree hd).1 h
  by_contra hwithin
  rw [Bool.not_eq_false] at hwithin
  obtain ⟨hpath, hholds⟩ := Actor.mem_restrictedPaths hdenied
  obtain ⟨key, hkey, hkeyDenied⟩ := List.any_eq_true.1 hholds
  obtain ⟨branch, hbranch, rfl⟩ := Document.mem_keys_flatten.1 hkey
  -- A leaf of the record below this one is this one, which is then withheld.
  have hbelow := Path.isWithin_trans hkeyDenied hwithin
  rw [Path.isWithin_iff] at hbelow
  rw [Document.segments_names hfree hmem, Document.segments_names hfree hbranch] at hbelow
  have hsame := Document.branch_unique hd hmem hbranch hbelow
  rw [← hsame] at hkeyDenied
  rw [Path.isWithinAny_iff.2 ⟨denied, hpath, hkeyDenied⟩] at houtside
  cases houtside

/-- The leaves that may be written are the replacements. -/
theorem mem_permittedLeaves {path : String} :
    (path, new) ∈ permittedLeaves actor patch entry ↔
      ∃ names leaf, (names, leaf) ∈ branches entry.record ∧
        actor.replacement? patch entry.permissions names leaf = some new ∧
        Path.ofSegments names = path := by
  have hpart : branches (actor.redactEntry .update entry).record ⊆ branches entry.record :=
    fun branch hbranch => ((mem_branches_redactEntry hfree hd).1 hbranch).1
  constructor
  · intro h
    obtain ⟨hflat, hkeep⟩ := List.mem_filter.1 h
    obtain ⟨branch, hbranch, hpath⟩ := Document.mem_flatten hflat
    obtain ⟨rfl, rfl⟩ := Prod.mk.inj hpath
    obtain ⟨leaf, hmem, hleaf, hwalk, hnew⟩ :=
      Document.plain_of_mem_overlap hfree hd hpart hbranch (Bool.and_eq_true_iff.1 hkeep).2
    obtain ⟨hrecord, houtside⟩ := (mem_branches_redactEntry hfree hd).1 hmem
    exact ⟨branch.1, leaf, hrecord, replacement?_eq_some.2 ⟨hwalk, hnew, hleaf, houtside⟩, rfl⟩
  · rintro ⟨names, leaf, hmem, hreplacement, rfl⟩
    obtain ⟨hwalk, hnew, hleaf, houtside⟩ := replacement?_eq_some.1 hreplacement
    have hvisible := (mem_branches_redactEntry hfree hd).2 ⟨hmem, houtside⟩
    refine List.mem_filter.2 ⟨?_, Bool.and_eq_true_iff.2 ⟨?_, ?_⟩⟩
    · rw [Document.flatten_eq_ofList]
      refine Dict.mem_ofList_of_forall (List.mem_map.2
        ⟨_, Document.mem_branches_overlap_of hvisible hleaf hwalk hnew, rfl⟩) fun other hother => ?_
      obtain ⟨branch, hbranch, e⟩ := List.mem_map.1 hother
      obtain ⟨hpath, rfl⟩ := Prod.mk.inj e
      exact Document.eq_of_mem_overlap hfree hd hpart hmem hleaf hwalk hbranch hpath
    · rw [Bool.not_eq_true', List.any_eq_false]
      intro denied hdenied
      rw [not_isWithin_of_mem hfree hd hvisible hdenied]
      simp
    · exact Document.fits_of_branch hfree hd hmem (Value.isPlain_iff.1 hleaf).1
        (Value.isPlain_iff.1 hnew).1

/-- The permitted leaves of a patch stand at leaves of the record, so none lies below another. -/
theorem isFlat_permittedLeaves : Document.IsFlat (permittedLeaves actor patch entry) where
  leaves := fun _ hleaf => Document.isLeaf_of_mem_flatten (List.mem_of_mem_filter hleaf)
  outermost := fun leaf hleaf other hother hwithin => by
    obtain ⟨names, old, hmem, -, hpath⟩ := (mem_permittedLeaves hfree hd).1 hleaf
    obtain ⟨names', old', hmem', -, hpath'⟩ := (mem_permittedLeaves hfree hd).1 hother
    rw [← hpath, ← hpath', Path.isWithin_iff, Document.segments_names hfree hmem,
      Document.segments_names hfree hmem'] at hwithin
    obtain ⟨rfl, -⟩ := Prod.mk.inj (Document.branch_unique hd hmem' hmem hwithin)
    rw [← hpath, hpath']

/-- The permitted part of a patch replaces leaves. -/
theorem replaces_permitted :
    Replaces (actor.replacement? patch entry.permissions) entry.record
      (permitted actor patch entry) := by
  intro names new
  have hflat : Document.IsFlat (permittedLeaves actor patch entry) :=
    isFlat_permittedLeaves hfree hd
  have hkeys : Dict.HasDistinctKeys (permittedLeaves actor patch entry) :=
    (Document.hasDistinctKeys_flatten _).sublist (List.filter_sublist.map _)
  rw [permitted_eq_nest, hflat.mem_branches_nest_iff hkeys]
  constructor
  · rintro ⟨leaf, hleaf, e⟩
    obtain ⟨rfl, rfl⟩ := Prod.mk.inj e
    obtain ⟨names, old, hmem, hreplacement, hpath⟩ := (mem_permittedLeaves hfree hd).1 hleaf
    rw [← hpath, Document.segments_names hfree hmem]
    exact ⟨old, hmem, hreplacement⟩
  · rintro ⟨old, hmem, hreplacement⟩
    refine ⟨(Path.ofSegments names, new), ?_, by rw [Document.segments_names hfree hmem]⟩
    exact (mem_permittedLeaves hfree hd).2 ⟨names, old, hmem, hreplacement, rfl⟩

/-- Something of a patch is permitted if it replaces some leaf. -/
theorem permitted_ne_nil_iff : permitted actor patch entry ≠ [] ↔ Patches actor patch entry := by
  have hreplaces : Replaces _ entry.record (permitted actor patch entry) :=
    replaces_permitted hfree hd
  constructor
  · intro hne
    obtain ⟨first, more, hfirst⟩ := List.exists_cons_of_ne_nil (Document.branches_ne_nil hne)
    obtain ⟨leaf, hmem, hnew⟩ := (hreplaces first.1 first.2).1 (hfirst ▸ List.mem_cons_self)
    exact ⟨_, hmem, Option.isSome_iff_exists.2 ⟨_, hnew⟩⟩
  · rintro ⟨branch, hbranch, hsome⟩ hnil
    obtain ⟨new, hnew⟩ := Option.isSome_iff_exists.1 hsome
    have hmem := (hreplaces branch.1 new).2 ⟨branch.2, hbranch, hnew⟩
    simp [hnil] at hmem

end

/-! ## The record after a patch -/

section

variable {actor : Actor} {patch : Document} {entry : Entry}

theorem distinctKeys_permitted (hd : DistinctKeys entry.record) (hp : DistinctKeys patch) :
    DistinctKeys (permitted actor patch entry) := by
  have hpart : DistinctKeys (actor.redactEntry .update entry).record :=
    Document.distinctKeys_redact hd _
  have hcontent : DistinctKeys (Record.content patch) := hp.sublist List.filter_sublist
  rw [permitted_eq_nest]
  exact Document.distinctKeys_nest fun leaf hleaf =>
    Document.distinctKeys_of_mem_flatten (Document.distinctKeys_overlap hpart hcontent)
      (List.mem_of_mem_filter hleaf)

/-- The record with the leaves that a patch replaces. -/
def replaced (actor : Actor) (patch : Document) (entry : Entry) : Document :=
  Document.mapLeaves
    (fun names leaf => (actor.replacement? patch entry.permissions names leaf).getD leaf)
    entry.record

theorem Actor.isLeaf_replace (actor : Actor) (patch : Document) (twin : Twin)
    (names : List String) (leaf : Value) (h : leaf.isLeaf = true) :
    ((actor.replacement? patch twin names leaf).getD leaf).isLeaf = true := by
  cases hnew : actor.replacement? patch twin names leaf with
  | none => exact h
  | some new => exact Value.isLeaf_of_isPlain (replacement?_eq_some.1 hnew).2.1

/-- No name is added, removed or moved; the leaves stay under their names. -/
theorem branches_replaced (actor : Actor) (patch : Document) (entry : Entry) :
    branches (replaced actor patch entry) = (branches entry.record).map fun branch =>
      (branch.1, (actor.replacement? patch entry.permissions branch.1 branch.2).getD branch.2) :=
  Document.branches_mapLeaves (actor.isLeaf_replace patch entry.permissions) entry.record

/-- Plain values come in the place of plain values. -/
theorem agreesBut_replaced (actor : Actor) (patch : Document) (entry : Entry) :
    AgreesBut (fun _ => True) entry.record (replaced actor patch entry) := by
  refine Document.agreesBut_mapLeaves fun branch _ => ?_
  cases hnew : actor.replacement? patch entry.permissions branch.1 branch.2 with
  | none => exact .inl rfl
  | some new =>
    obtain ⟨-, hnewPlain, hplain, -⟩ := replacement?_eq_some.1 hnew
    exact .inr ⟨(Value.isPlain_iff.1 hplain).1, (Value.isPlain_iff.1 hnewPlain).1, trivial⟩

section

variable (hfree : DotFree entry.record) (hd : DistinctKeys entry.record) (hp : DistinctKeys patch)

include hfree hd hp

/-- Merging what is permitted of a patch into a record replaces leaves in place. -/
theorem merge_permitted_eq :
    Document.merge entry.record (permitted actor patch entry) = replaced actor patch entry := by
  have hplain : ∀ {names leaf new},
      actor.replacement? patch entry.permissions names leaf = some new → new.isDocument = false :=
    fun h => (Value.isPlain_iff.1 (replacement?_eq_some.1 h).2.1).1
  exact Document.merge_eq_mapLeaves hd (distinctKeys_permitted hd hp) hplain
    (replaces_permitted hfree hd)

/-- The record after a patch is the record with leaves replaced in place, stamped. -/
theorem patched_eq (stamp : Stamp) :
    patched actor stamp patch entry = Record.stampUpdated (replaced actor patch entry) stamp := by
  rw [patched, merge_permitted_eq hfree hd hp]

omit hd hp in
theorem dotFree_replaced : DotFree (replaced actor patch entry) :=
  (agreesBut_replaced actor patch entry).dotFree_iff.1 hfree

theorem distinctKeys_replaced : DistinctKeys (replaced actor patch entry) := by
  rw [← merge_permitted_eq hfree hd hp]
  exact Document.distinctKeys_merge hd (distinctKeys_permitted hd hp)

/-- The leaf at a path after a patch, outside of the stamp. -/
theorem leaf?_patched (stamp : Stamp) {path : String}
    (houtside : Path.isWithin path Record.updatedField = false) :
    leaf? (patched actor stamp patch entry) path =
      (leaf? entry.record path).map fun leaf =>
        (actor.replacement? patch entry.permissions (Path.segments path) leaf).getD leaf := by
  rw [patched_eq hfree hd hp, Record.leaf?_stampUpdated stamp (dotFree_replaced hfree)
    (distinctKeys_replaced hfree hd hp) houtside]
  exact Document.leaf?_mapLeaves (actor.isLeaf_replace patch entry.permissions) hfree hd path

end

end

end FieldGuard
