import FieldGuard.Proofs.Permission.Defaults

/-!
# What the permissions of a new record hold

The permissions of a new record hold the paths of its base (`Config.IsBase`), which no override has
a say in, and every override with a path of the base at or below its own. So they are a function of
what they are made from: neither the order in which the overrides are applied nor that of the
record's paths makes a difference, nor does any repetition among these.

* `Config.mem_defaultPaths_iff`: the default triple is given to the paths of the base;
* `Config.mem_keys_twin_iff`, `Config.get?_twin_of_mem`: the paths of the twin and their triples;
* `Config.twin_eq_foldl`: the overrides may be applied in any order;
* `Config.twin_congr`: the paths of the record may be given in any order, and repeatedly;
* `Config.twin_determined`: all of it together.
-/

namespace FieldGuard

/-- The containers of a path are the texts that it goes on after with a dot. -/
theorem Path.mem_ancestors_iff_append {ancestor path : String} :
    ancestor ∈ ancestors path ↔ ∃ rest, path = ancestor ++ "." ++ rest := by
  rw [mem_ancestors_iff]
  constructor
  · rintro ⟨keys, hkeys, ⟨more, hmore⟩, hproper, rfl⟩
    have hne : more ≠ [] := fun e => hproper (by rw [← hmore, e, List.append_nil])
    exact ⟨ofSegments more, by rw [← ofSegments_append hkeys hne, hmore, ofSegments_segments]⟩
  · rintro ⟨rest, rfl⟩
    rw [segments_append_dot]
    refine ⟨segments ancestor, segments_ne_nil _, List.prefix_append _ _, fun e => ?_,
      ofSegments_segments _⟩
    exact segments_ne_nil rest (List.self_eq_append_right.1 e)

namespace Config

/-! ## The base -/

/-- A path that gets a triple whatever the overrides are: a field of the store's own, a path of the
shape or, without a shape, a path of the record or a container of one, if containers have
permissions of their own. -/
inductive IsBase (config : Config) (recordPaths : List String) (path : String) : Prop
  | system (h : path ∈ Record.systemFields)
  | shape {shape : Shape} (hshape : config.shape = some shape)
      (h : path ∈ shape.fieldPaths config.containerPermissions)
  | record (hshape : config.shape = none) (h : path ∈ recordPaths)
  | container {inner rest : String} (hshape : config.shape = none)
      (hcontainers : config.containerPermissions = true) (hinner : inner ∈ recordPaths)
      (h : inner = path ++ "." ++ rest)

variable {config : Config} {id : String} {recordPaths : List String}
  {overrides : SortedDict Triple} {path : String}

theorem mem_contentPaths_iff (hshape : config.shape = none) :
    path ∈ config.contentPaths recordPaths ↔
      path ∈ recordPaths ∨ config.containerPermissions = true ∧
        ∃ inner ∈ recordPaths, ∃ rest, inner = path ++ "." ++ rest := by
  rw [contentPaths, hshape]
  cases config.containerPermissions with
  | false => simp
  | true =>
    simp only [if_true, List.mem_flatMap, List.mem_append, List.mem_singleton,
      Path.mem_ancestors_iff_append, true_and]
    constructor
    · rintro ⟨inner, hinner, h | rfl⟩
      · exact .inr ⟨inner, hinner, h⟩
      · exact .inl hinner
    · rintro (h | ⟨inner, hinner, h⟩)
      · exact ⟨path, h, .inr rfl⟩
      · exact ⟨inner, hinner, .inl h⟩

/-- The default triple is given to the paths of the base. -/
theorem mem_defaultPaths_iff :
    path ∈ config.defaultPaths recordPaths ↔ config.IsBase recordPaths path := by
  rw [defaultPaths, List.mem_append]
  constructor
  · rintro (h | h)
    · exact .system h
    · cases hshape : config.shape with
      | some shape =>
        rw [contentPaths, hshape] at h
        exact .shape hshape h
      | none =>
        rcases (mem_contentPaths_iff hshape).1 h with h | ⟨hcontainers, inner, hinner, rest, h⟩
        · exact .record hshape h
        · exact .container hshape hcontainers hinner h
  · intro h
    cases h with
    | system h => exact .inl h
    | shape hshape h =>
      rw [contentPaths, hshape]
      exact .inr h
    | record hshape h => exact .inr ((mem_contentPaths_iff hshape).2 (.inl h))
    | container hshape hcontainers hinner h =>
      exact .inr ((mem_contentPaths_iff hshape).2 (.inr ⟨hcontainers, _, hinner, _, h⟩))

theorem reaches_iff :
    config.reaches recordPaths path = true ↔
      ∃ known, config.IsBase recordPaths known ∧ Path.isWithin known path = true := by
  simp [reaches, mem_defaultPaths_iff]

/-! ## Paths and triples -/

/-- The twin of a new record holds the base and the overrides with a path of the base at or below
theirs. -/
theorem mem_keys_twin_iff :
    path ∈ (config.twin id recordPaths overrides).fields.keys ↔
      config.IsBase recordPaths path ∨
        (overrides.contains path = true ∨ config.overrides.contains path = true) ∧
          ∃ known, config.IsBase recordPaths known ∧ Path.isWithin known path = true := by
  rw [← reaches_iff, ← mem_defaultPaths_iff, Twin.mem_keys_iff_get?, get?_twin,
    SortedDict.contains, SortedDict.contains]
  by_cases hbase : path ∈ config.defaultPaths recordPaths
  · rw [if_pos (reaches_of_mem hbase), if_pos hbase]
    cases (overrides.get? path).or (config.overrides.get? path) <;> simp [hbase]
  · cases overrides.get? path <;> cases config.overrides.get? path <;> simp [hbase]

/-- The triple at a path of the twin is the override of the call, or else that of the configuration,
or else the default. -/
theorem get?_twin_of_mem (h : path ∈ (config.twin id recordPaths overrides).fields.keys) :
    (config.twin id recordPaths overrides).get? path =
      some (((overrides.get? path).or (config.overrides.get? path)).getD
        config.defaultPermissions) := by
  obtain ⟨triple, htriple⟩ := Twin.mem_keys_iff_get?.1 h
  rw [htriple]
  rw [get?_twin] at htriple
  split at htriple
  · cases hoverride : (overrides.get? path).or (config.overrides.get? path) with
    | some override =>
      rw [hoverride, Option.some_or] at htriple
      exact htriple.symm
    | none =>
      rw [hoverride, Option.none_or] at htriple
      split at htriple
      · exact htriple.symm
      · cases htriple
  · cases htriple

/-! ## Order and repetition -/

/-- The permissions of a new record before any override is applied. -/
def baseTwin (config : Config) (id : String) (recordPaths : List String) : Twin :=
  (config.defaultPaths recordPaths).foldl (fun twin path => twin.set path config.defaultPermissions)
    (Twin.empty id)

theorem twin_eq (config : Config) (id : String) (recordPaths : List String)
    (overrides : SortedDict Triple) : config.twin id recordPaths overrides =
      (config.overrides.entries ++ overrides.entries).foldl applyOverride
        (config.baseTwin id recordPaths) := rfl

theorem twin_id (config : Config) (id : String) (recordPaths : List String)
    (overrides : SortedDict Triple) : (config.twin id recordPaths overrides).id = id := by
  rw [twin_eq, id_applyOverrides, baseTwin, Twin.id_setAll]
  rfl

/-- Overrides of different paths may be applied in any order. -/
theorem foldl_applyOverride_perm (twin : Twin) {entries others : List (String × Triple)}
    (hd : Dict.HasDistinctKeys entries) (h : others.Perm entries) :
    others.foldl applyOverride twin = entries.foldl applyOverride twin := by
  have hothers : Dict.HasDistinctKeys others := (h.map Prod.fst).nodup_iff.2 hd
  refine Twin.eq_of_get? ?_ fun path => ?_
  · rw [id_applyOverrides, id_applyOverrides]
  · rw [get?_applyOverrides twin hothers, get?_applyOverrides twin hd,
      Dict.get?_eq_of_perm hothers h]

/-- The overrides of the configuration may be applied in any order, and so may those of the call
after them. -/
theorem twin_eq_foldl {own call : List (String × Triple)}
    (hown : own.Perm config.overrides.entries) (hcall : call.Perm overrides.entries) :
    (own ++ call).foldl applyOverride (config.baseTwin id recordPaths) =
      config.twin id recordPaths overrides := by
  rw [twin_eq, List.foldl_append, List.foldl_append,
    foldl_applyOverride_perm _ config.overrides.hasDistinctKeys hown,
    foldl_applyOverride_perm _ overrides.hasDistinctKeys hcall]

theorem isBase_congr {others : List String} (h : ∀ path, path ∈ others ↔ path ∈ recordPaths) :
    config.IsBase others path ↔ config.IsBase recordPaths path := by
  have himp : ∀ {paths others : List String}, (∀ path, path ∈ others ↔ path ∈ paths) →
      config.IsBase others path → config.IsBase paths path := by
    intro paths others h hbase
    cases hbase with
    | system h => exact .system h
    | shape hshape h => exact .shape hshape h
    | record hshape hpath => exact .record hshape ((h _).1 hpath)
    | container hshape hcontainers hinner hpath =>
      exact .container hshape hcontainers ((h _).1 hinner) hpath
  exact ⟨himp h, himp fun path => (h path).symm⟩

/-- Neither the order of the record's paths nor their repetition matters. -/
theorem twin_congr {others : List String} (h : ∀ path, path ∈ others ↔ path ∈ recordPaths) :
    config.twin id others overrides = config.twin id recordPaths overrides := by
  refine Twin.eq_of_get? (by rw [twin_id, twin_id]) fun path => ?_
  have hreaches : config.reaches others path = config.reaches recordPaths path := by
    rw [Bool.eq_iff_iff, reaches_iff, reaches_iff]
    simp only [isBase_congr h]
  have hmem : path ∈ config.defaultPaths others ↔ path ∈ config.defaultPaths recordPaths := by
    rw [mem_defaultPaths_iff, mem_defaultPaths_iff, isBase_congr h]
  rw [get?_twin, get?_twin, hreaches]
  simp only [hmem]

/-- The permissions of a new record are a function of what they are made from. They hold the paths
of the base and every override with a path of the base at or below its own, whatever other overrides
there are; at each path the override of the call, or else that of the configuration, or else the
default. Nothing changes if overrides are applied in another order, or if the paths of the record
are given in another one or more than once. -/
theorem twin_determined (config : Config) (id : String) (recordPaths : List String)
    (overrides : SortedDict Triple) :
    let twin := config.twin id recordPaths overrides
    twin.id = id ∧
      (∀ path, path ∈ twin.fields.keys ↔
        config.IsBase recordPaths path ∨
          (overrides.contains path = true ∨ config.overrides.contains path = true) ∧
            ∃ known, config.IsBase recordPaths known ∧ Path.isWithin known path = true) ∧
      (∀ path ∈ twin.fields.keys, twin.get? path =
        some (((overrides.get? path).or (config.overrides.get? path)).getD
          config.defaultPermissions)) ∧
      (∀ (own call : SortedDict Triple) (path : String),
        call.contains path = true ∨ own.contains path = true →
          (path ∈ ({ config with overrides := own }.twin id recordPaths call).fields.keys ↔
            ∃ known, config.IsBase recordPaths known ∧ Path.isWithin known path = true)) ∧
      (∀ own call : List (String × Triple), own.Perm config.overrides.entries →
        call.Perm overrides.entries →
          (own ++ call).foldl applyOverride (config.baseTwin id recordPaths) = twin) ∧
      ∀ others, (∀ path, path ∈ others ↔ path ∈ recordPaths) →
        config.twin id others overrides = twin := by
  refine ⟨twin_id .., fun _ => mem_keys_twin_iff, fun _ => get?_twin_of_mem, ?_,
    fun _ _ => twin_eq_foldl, fun _ => twin_congr⟩
  intro own call path hoverride
  -- The base is that of the configuration with other overrides.
  have hbase : ∀ path, ({ config with overrides := own } : Config).IsBase recordPaths path ↔
      config.IsBase recordPaths path := fun path => by
    rw [← mem_defaultPaths_iff, ← mem_defaultPaths_iff]
    rfl
  rw [mem_keys_twin_iff]
  simp only [hbase]
  constructor
  · rintro (h | ⟨-, h⟩)
    · exact ⟨path, h, Path.isWithin_refl path⟩
    · exact h
  · exact fun h => .inr ⟨hoverride, h⟩

/-- Of three overrides one lies above no path of the record, and one is given twice. -/
theorem twin_determined_data :
    let config : Config :=
      { name := "people", containerPermissions := true, defaultPermissions := { read := ["staff"] },
        overrides := SortedDict.ofList [("data", { read := ["own"] }), ("note", {})] }
    let overrides : SortedDict Triple :=
      SortedDict.ofList [("data", { read := ["hr"] }), ("data.age.years", {})]
    let twin := config.twin "1" ["name", "data.age"] overrides
    twin.fields.keys =
        ["_created", "_deleted", "_id", "_updated", "data", "data.age", "name"] ∧
      twin.get? "data" = some { read := ["hr"] } ∧ twin.get? "name" = some { read := ["staff"] } ∧
      "note" ∉ ({ config with overrides := .ofList [("note", {})] }.twin "1"
        ["name", "data.age"] .empty).fields.keys ∧
      (config.overrides.entries.reverse ++ overrides.entries.reverse).foldl applyOverride
        (config.baseTwin "1" ["name", "data.age"]) = twin ∧
      config.twin "1" ["data.age", "name", "data.age"] overrides = twin := by
  intro config overrides twin
  obtain ⟨-, -, htriples, haccepts, horder, hpaths⟩ :=
    twin_determined config "1" ["name", "data.age"] overrides
  have hdata : "data" ∈ twin.fields.keys := by decide +kernel
  have hname : "name" ∈ twin.fields.keys := by decide +kernel
  have hunknown : ∀ known ∈ config.defaultPaths ["name", "data.age"],
      Path.isWithin known "note" = false := by decide +kernel
  refine ⟨by decide +kernel, (htriples "data" hdata).trans rfl, (htriples "name" hname).trans rfl,
    ?_, horder _ _ (List.reverse_perm _) (List.reverse_perm _),
    hpaths ["data.age", "name", "data.age"] (by simp [or_comm])⟩
  rw [haccepts (.ofList [("note", {})]) .empty "note" (.inr (by decide +kernel))]
  rintro ⟨known, hbase, hwithin⟩
  rw [hunknown known (mem_defaultPaths_iff.2 hbase)] at hwithin
  cases hwithin

end Config

end FieldGuard
