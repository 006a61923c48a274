import FieldGuard.Config
import FieldGuard.Proofs.Permission.Restriction

/-!
# The permissions of a new record

The twin of a new record holds the default triple at some paths, and an override wherever one of
these paths lies at or below the path of the override. Overrides that take hold do not make others
take hold, so their order matters only where two have one path.

* `Config.defaultPaths`, `Config.reaches`: the paths that get the default triple, and those at which
  an override takes hold;
* `Config.get?_twin`: all that the twin holds.
-/

namespace FieldGuard

/-! ## Writing triples -/

namespace Twin

/-- Whether the twin holds the path, or one below it. -/
def reaches (twin : Twin) (path : String) : Bool :=
  twin.fields.keys.any fun known => Path.isWithin known path

theorem get?_set (twin : Twin) (path : String) (triple : Triple) (other : String) :
    (twin.set path triple).get? other = if other = path then some triple else twin.get? other :=
  SortedDict.get?_insert _ _ _ _

theorem mem_keys_iff_get? {twin : Twin} {path : String} :
    path ∈ twin.fields.keys ↔ ∃ triple, twin.get? path = some triple :=
  SortedDict.mem_keys_iff_get?

theorem reaches_iff {twin : Twin} {path : String} :
    twin.reaches path = true ↔
      ∃ known triple, twin.get? known = some triple ∧ Path.isWithin known path = true := by
  simp [reaches, mem_keys_iff_get?]

theorem get?_eq_none_of_reaches {twin : Twin} {path : String} (h : twin.reaches path = false) :
    twin.get? path = none := by
  refine Option.eq_none_iff_forall_ne_some.2 fun triple hget => ?_
  rw [reaches_iff.2 ⟨path, triple, hget, Path.isWithin_refl path⟩] at h
  cases h

theorem get?_setAll (twin : Twin) (paths : List String) (triple : Triple) (path : String) :
    (paths.foldl (fun twin path => twin.set path triple) twin).get? path =
      if path ∈ paths then some triple else twin.get? path := by
  induction paths generalizing twin with
  | nil => simp
  | cons first rest ih =>
    rw [List.foldl_cons, ih, get?_set]
    by_cases hrest : path ∈ rest
    · simp [hrest]
    · by_cases hfirst : path = first <;> simp [hrest, hfirst]

theorem id_setAll (twin : Twin) (paths : List String) (triple : Triple) :
    (paths.foldl (fun twin path => twin.set path triple) twin).id = twin.id := by
  induction paths generalizing twin with
  | nil => rfl
  | cons first rest ih => exact (ih _).trans rfl

/-- A twin is known by its identifier and what reading it gives. -/
theorem eq_of_get? {twin other : Twin} (hid : twin.id = other.id)
    (h : ∀ path, twin.get? path = other.get? path) : twin = other := by
  obtain ⟨id, fields⟩ := twin
  obtain ⟨_, others⟩ := other
  obtain rfl := hid
  rw [show fields = others from SortedDict.eq_of_get? h]

end Twin

/-! ## Applying overrides -/

namespace Config

theorem applyOverride_eq (twin : Twin) (entry : String × Triple) :
    applyOverride twin entry =
      if twin.reaches entry.1 then twin.set entry.1 entry.2 else twin := rfl

/-- What an override adds lies above what made it take hold. -/
theorem reaches_applyOverride (twin : Twin) (entry : String × Triple) (path : String) :
    (applyOverride twin entry).reaches path = twin.reaches path := by
  rw [applyOverride_eq]
  split
  · rename_i happlies
    rw [Bool.eq_iff_iff, Twin.reaches_iff, Twin.reaches_iff]
    constructor
    · rintro ⟨known, triple, hget, hwithin⟩
      rw [Twin.get?_set] at hget
      split at hget
      · rename_i hknown
        obtain ⟨inner, innerTriple, hinner, hbelow⟩ := Twin.reaches_iff.1 happlies
        rw [← hknown] at hbelow
        exact ⟨inner, innerTriple, hinner, Path.isWithin_trans hbelow hwithin⟩
      · exact ⟨known, triple, hget, hwithin⟩
    · rintro ⟨known, triple, hget, hwithin⟩
      by_cases hknown : known = entry.1
      · exact ⟨known, entry.2, by rw [Twin.get?_set, if_pos hknown], hwithin⟩
      · exact ⟨known, triple, by rw [Twin.get?_set, if_neg hknown, hget], hwithin⟩
  · rfl

theorem reaches_applyOverrides (twin : Twin) (entries : List (String × Triple)) (path : String) :
    (entries.foldl applyOverride twin).reaches path = twin.reaches path := by
  induction entries generalizing twin with
  | nil => rfl
  | cons entry rest ih => rw [List.foldl_cons, ih, reaches_applyOverride]

theorem id_applyOverrides (twin : Twin) (entries : List (String × Triple)) :
    (entries.foldl applyOverride twin).id = twin.id := by
  induction entries generalizing twin with
  | nil => rfl
  | cons entry rest ih =>
    refine (ih _).trans ?_
    rw [applyOverride_eq]
    split <;> rfl

/-- Overrides of different paths do not get into each other's way. -/
theorem get?_applyOverrides (twin : Twin) {entries : List (String × Triple)}
    (h : Dict.HasDistinctKeys entries) (path : String) :
    (entries.foldl applyOverride twin).get? path =
      if twin.reaches path then (Dict.get? entries path).or (twin.get? path) else none := by
  induction entries generalizing twin with
  | nil =>
    rw [List.foldl_nil, Dict.get?_nil, Option.none_or]
    split
    · rfl
    · rename_i hreaches
      exact Twin.get?_eq_none_of_reaches (eq_false_of_ne_true hreaches)
  | cons entry rest ih =>
    obtain ⟨hfirst, hrest⟩ := List.nodup_cons.1 h
    rw [List.foldl_cons, ih _ hrest, reaches_applyOverride, Dict.get?_cons]
    split
    · rename_i hreaches
      rw [applyOverride_eq]
      by_cases hpath : entry.1 = path
      · subst hpath
        rw [if_pos rfl, Dict.get?_eq_none_iff.2 hfirst, if_pos hreaches, Twin.get?_set, if_pos rfl]
        rfl
      · have hkept : (if twin.reaches entry.1 then twin.set entry.1 entry.2 else twin).get? path =
            twin.get? path := by
          split
          · rw [Twin.get?_set, if_neg (Ne.symm hpath)]
          · rfl
        rw [if_neg hpath, hkept]
    · rfl

/-! ## New records -/

variable (config : Config) (id : String) (recordPaths : List String) (overrides : SortedDict Triple)

/-- The paths of a new record that get the default triple. -/
def defaultPaths : List String :=
  Record.systemFields ++ config.contentPaths recordPaths

/-- Whether one of these paths is `path`, or lies below it. -/
def reaches (path : String) : Bool :=
  (config.defaultPaths recordPaths).any fun known => Path.isWithin known path

variable {config recordPaths} in
theorem reaches_of_mem {path : String} (h : path ∈ config.defaultPaths recordPaths) :
    config.reaches recordPaths path = true :=
  List.any_eq_true.2 ⟨path, h, Path.isWithin_refl path⟩

/-- All that the twin of a new record holds: where a default path lies at or below, the override of
the call, or that of the configuration, or the default triple. -/
theorem get?_twin (path : String) :
    (config.twin id recordPaths overrides).get? path =
      if config.reaches recordPaths path then
        ((overrides.get? path).or (config.overrides.get? path)).or
          (if path ∈ config.defaultPaths recordPaths then some config.defaultPermissions else none)
      else none := by
  have hbase : ∀ path, ((config.defaultPaths recordPaths).foldl
      (fun twin path => twin.set path config.defaultPermissions) (Twin.empty id)).get? path =
        if path ∈ config.defaultPaths recordPaths then some config.defaultPermissions else none :=
    fun path => Twin.get?_setAll _ _ _ path
  have hreaches : ∀ path, ((config.defaultPaths recordPaths).foldl
      (fun twin path => twin.set path config.defaultPermissions) (Twin.empty id)).reaches path =
        config.reaches recordPaths path := by
    intro path
    rw [Bool.eq_iff_iff, Twin.reaches_iff, reaches, List.any_eq_true]
    simp [hbase]
  rw [twin, ← defaultPaths, List.foldl_append,
    get?_applyOverrides _ overrides.hasDistinctKeys, reaches_applyOverrides, hreaches,
    get?_applyOverrides _ config.overrides.hasDistinctKeys, hreaches, hbase, ← SortedDict.get?,
    ← SortedDict.get?]
  split
  · rw [Option.or_assoc]
  · rfl

variable {config id recordPaths overrides}

theorem get?_twin_of_override {path : String} {triple : Triple}
    (h : (overrides.get? path).or (config.overrides.get? path) = some triple) :
    (config.twin id recordPaths overrides).get? path =
      if config.reaches recordPaths path then some triple else none := by
  rw [get?_twin, h, Option.some_or]

theorem mem_keys_twin_of_mem {path : String} (h : path ∈ config.defaultPaths recordPaths) :
    path ∈ (config.twin id recordPaths overrides).fields.keys := by
  rw [Twin.mem_keys_iff_get?, get?_twin, if_pos (reaches_of_mem h), if_pos h]
  cases (overrides.get? path).or (config.overrides.get? path) with
  | none => exact ⟨config.defaultPermissions, rfl⟩
  | some triple => exact ⟨triple, rfl⟩

/-- If no override takes hold, the twin holds the default triple only. -/
theorem eq_defaultPermissions_of_get?_twin {path : String} {triple : Triple}
    (hnone : ∀ path, (overrides.get? path).or (config.overrides.get? path) = none ∨
      config.reaches recordPaths path = false)
    (h : (config.twin id recordPaths overrides).get? path = some triple) :
    triple = config.defaultPermissions := by
  rw [get?_twin] at h
  split at h
  · rename_i hreaches
    rw [(hnone path).resolve_right (by simp [hreaches]), Option.none_or] at h
    split at h
    · exact (Option.some.inj h).symm
    · cases h
  · cases h

end Config

end FieldGuard
