import FieldGuard.Proofs.Document.Nesting

/-!
# Documents that name no field twice

What builds documents from others keeps the names distinct at every depth: writing a field or a
leaf, building a document from leaves, and redacting (`distinctKeys_insert`,
`distinctKeys_assignAt`, `distinctKeys_nest`, `distinctKeys_redact`).
-/

namespace FieldGuard

namespace Document

variable {d : Document}

theorem distinctKeys_iff :
    DistinctKeys d ↔ Dict.HasDistinctKeys d ∧ ∀ field ∈ d, field.2.DistinctKeys := by
  induction d with
  | nil => simp [DistinctKeys, Value.DistinctKeys, Value.FieldsDistinctKeys, Dict.HasDistinctKeys,
      Dict.keys]
  | cons field rest ih =>
    obtain ⟨key, value⟩ := field
    rw [distinctKeys_cons, ih, List.forall_mem_cons]
    simp only [Dict.HasDistinctKeys, Dict.keys, List.map_cons, List.nodup_cons]
    constructor
    · rintro ⟨hkey, hvalue, hrest, hall⟩
      exact ⟨⟨hkey, hrest⟩, hvalue, hall⟩
    · rintro ⟨⟨hkey, hrest⟩, hvalue, hall⟩
      exact ⟨hkey, hvalue, hrest, hall⟩

theorem DistinctKeys.value (h : DistinctKeys d) {key : String} {value : Value}
    (hmem : (key, value) ∈ d) : value.DistinctKeys :=
  (distinctKeys_iff.1 h).2 _ hmem

theorem DistinctKeys.get? (h : DistinctKeys d) {key : String} {value : Value}
    (hget : Dict.get? d key = some value) : value.DistinctKeys :=
  h.value (Dict.mem_of_get? hget)

theorem DistinctKeys.sublist {e : Document} (h : DistinctKeys d) (hs : e.Sublist d) :
    DistinctKeys e := by
  obtain ⟨hkeys, hall⟩ := distinctKeys_iff.1 h
  exact distinctKeys_iff.2
    ⟨hkeys.sublist (hs.map _), fun field hfield => hall field (hs.subset hfield)⟩

theorem distinctKeys_insert (h : DistinctKeys d) (key : String) {value : Value}
    (hvalue : value.DistinctKeys) : DistinctKeys (Dict.insert d key value) := by
  obtain ⟨hkeys, hall⟩ := distinctKeys_iff.1 h
  refine distinctKeys_iff.2 ⟨hkeys.insert key value, fun field hfield => ?_⟩
  rcases Dict.mem_insert hfield with rfl | hfield
  · exact hvalue
  · exact hall field hfield

/-! ## Leaves -/

theorem distinctKeys_of_mem_branches (h : DistinctKeys d) {branch : List String × Value}
    (hb : branch ∈ branches d) : branch.2.DistinctKeys := by
  induction d using induct generalizing branch with
  | nil => simp at hb
  | leaf key value rest hleaf ih =>
    obtain ⟨-, hvalue, hrest⟩ := distinctKeys_cons.1 h
    rw [branches_leaf_cons hleaf] at hb
    rcases List.mem_cons.1 hb with rfl | hb
    · exact hvalue
    · exact ih hrest hb
  | node key fields rest hfields ihfields ih =>
    obtain ⟨-, hvalue, hrest⟩ := distinctKeys_cons.1 h
    rw [branches_node_cons hfields] at hb
    rcases List.mem_append.1 hb with hb | hb
    · obtain ⟨inner, hinner, rfl⟩ := Value.mem_under.1 hb
      have hleaf := ihfields hvalue hinner
      exact hleaf
    · exact ih hrest hb

theorem distinctKeys_of_mem_flatten (h : DistinctKeys d) {leaf : String × Value}
    (hleaf : leaf ∈ flatten d) : leaf.2.DistinctKeys := by
  obtain ⟨branch, hbranch, rfl⟩ := mem_flatten hleaf
  exact distinctKeys_of_mem_branches h hbranch

theorem distinctKeys_child (h : DistinctKeys d) (key : String) : DistinctKeys (child d key) := by
  unfold child
  split
  · rename_i fields hget
    exact h.get? hget
  · exact distinctKeys_iff.2 ⟨List.nodup_nil, by simp⟩

theorem distinctKeys_assignAt (h : DistinctKeys d) (names : List String) {value : Value}
    (hvalue : value.DistinctKeys) : DistinctKeys (assignAt d names value) := by
  induction names generalizing d with
  | nil => exact h
  | cons key rest ih =>
    by_cases hr : rest = []
    · subst hr
      exact distinctKeys_insert h key hvalue
    · rw [assignAt_cons hr]
      exact distinctKeys_insert h key (ih (distinctKeys_child h key))

theorem distinctKeys_nest {flat : Document} (h : ∀ leaf ∈ flat, leaf.2.DistinctKeys) :
    DistinctKeys (nest flat) := by
  suffices hfold : ∀ d : Document, DistinctKeys d →
      DistinctKeys (flat.foldl (fun d leaf => assign d leaf.1 leaf.2) d) from
    hfold [] (distinctKeys_iff.2 ⟨List.nodup_nil, by simp⟩)
  induction flat with
  | nil => exact fun d hd => hd
  | cons leaf flat ih =>
    intro d hd
    obtain ⟨hleaf, hflat⟩ := List.forall_mem_cons.1 h
    exact ih hflat _ (distinctKeys_assignAt hd _ hleaf)

theorem distinctKeys_redact (h : DistinctKeys d) (paths : List String) :
    DistinctKeys (redact d paths) := by
  unfold redact
  split
  · exact h
  · exact distinctKeys_nest fun leaf hleaf =>
      distinctKeys_of_mem_flatten h (mem_withoutPaths.1 hleaf).1

end Document

end FieldGuard
