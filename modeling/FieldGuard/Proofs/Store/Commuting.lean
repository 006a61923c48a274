import FieldGuard.Proofs.Shape.Leafwise
import FieldGuard.Proofs.Store.Editing

/-!
# Updates that commute

Two updates whose patches have no leaf path in common write different leaves
(`Edit.apart_of_paths`). So the second one finds at its leaves what it would have found without the
first one, and leaves what the first one wrote (`Edit.Apart.comm`). What it writes is valid although
the first one changed the rest of the record, as a shape checks each leaf on its own
(`Edit.Apart.writesValid_after`).

`updates_commute` puts this together: if each of the two succeeds alone, both orders succeed, and
they end in the same records but for the stamp of the last change, with nothing lost.
-/

namespace FieldGuard

open Document (DotFree DistinctKeys flatten leaf? mapLeaves)

/-! ## Updates of different leaves -/

/-- A leaf is replaced by what stands in the patch under its path. -/
theorem Actor.mem_keys_flatten_of_replacement? {actor : Actor} {patch : Document} {twin : Twin}
    {names : List String} {leaf new : Value}
    (h : actor.replacement? patch twin names leaf = some new) :
    Path.ofSegments names ∈ Dict.keys (flatten patch) := by
  obtain ⟨hwalk, hplain, -, -⟩ := replacement?_eq_some.1 h
  have hne : names ≠ [] := by
    rintro rfl
    obtain rfl := Option.some.inj hwalk
    cases hplain
  have hbranch := Document.mem_branches_of_walk? hne (Value.isLeaf_of_isPlain hplain) hwalk
  exact Document.mem_keys_flatten.2 ⟨_, Record.branches_content_subset _ hbranch, rfl⟩

namespace Edit

/-- Where the first update replaces a leaf, the second one replaces none. -/
def Apart (a b : Edit) : Prop :=
  ∀ entry names leaf, a.replace entry names leaf ≠ leaf →
    ∀ other, b.replace entry names other = other

variable {a b : Edit}

theorem mem_keys_flatten_of_replace {entry : Entry} {names : List String} {leaf : Value}
    (h : a.replace entry names leaf ≠ leaf) :
    Path.ofSegments names ∈ Dict.keys (flatten a.patch) := by
  unfold replace at h
  split at h
  · cases hnew : a.actor.replacement? a.patch entry.permissions names leaf with
    | none =>
      rw [hnew] at h
      exact absurd rfl h
    | some new => exact Actor.mem_keys_flatten_of_replacement? hnew
  · exact absurd rfl h

/-- Patches without a common leaf path write different leaves. -/
theorem apart_of_paths
    (h : ∀ path ∈ Dict.keys (flatten a.patch), path ∉ Dict.keys (flatten b.patch)) :
    a.Apart b := by
  intro entry names leaf hleaf other
  by_contra hother
  exact h _ (mem_keys_flatten_of_replace hleaf) (mem_keys_flatten_of_replace hother)

namespace Apart

variable (h : a.Apart b)

include h

theorem symm : b.Apart a := by
  intro entry names leaf hleaf other
  by_contra hother
  exact hleaf (h entry names other hother leaf)

/-- What the two make of a leaf, one after the other, is what one of them makes of it. -/
theorem replace_replace (entry : Entry) (names : List String) (leaf : Value) :
    a.replace entry names leaf ≠ leaf ∧
        b.replace entry names (a.replace entry names leaf) = a.replace entry names leaf ∨
      a.replace entry names leaf = leaf ∧
        b.replace entry names (a.replace entry names leaf) = b.replace entry names leaf := by
  by_cases hleaf : a.replace entry names leaf = leaf
  · exact .inr ⟨hleaf, by rw [hleaf]⟩
  · exact .inl ⟨hleaf, h entry names leaf hleaf _⟩

theorem comm (entry : Entry) (names : List String) (leaf : Value) :
    b.replace entry names (a.replace entry names leaf) =
      a.replace entry names (b.replace entry names leaf) := by
  rcases h.replace_replace entry names leaf with ⟨hleaf, hboth⟩ | ⟨hleaf, hboth⟩
  · rw [hboth, h entry names leaf hleaf leaf]
  · rw [hboth]
    by_cases hother : b.replace entry names leaf = leaf
    · rw [hother, hleaf]
    · rw [h.symm entry names leaf hother]

/-- What the second update writes after the first one is valid if what each writes alone is. -/
theorem writesValid_after {config : Config} {table : Table} (ha : a.Suits table)
    (hb : b.query.RestrictsByIds) (hvalid : a.WritesValid config table)
    (hvalid' : b.WritesValid config table) :
    b.WritesValid config (table.withRecords (a.after table)) := by
  intro entry hentry hwrites
  obtain ⟨old, hold, rfl⟩ := List.mem_map.1 hentry
  have hedited := isEdited_after ha hold
  rw [writes_iff hedited hb] at hwrites
  rw [replace_eq hedited hb]
  dsimp only
  rcases after_cases ha hold with ⟨hfirst, -⟩ | ⟨-, hafter⟩
  · have hsame := (same_after ha hold).mapLeaves fun names leaf =>
      (b.isEdit_replace old).system Record.updatedField names leaf (by decide)
    rw [config.validate_congr hsame.content_eq,
      Document.mapLeaves_mapLeaves (a.isEdit_replace old).isLeaf]
    refine config.validate_mapLeaves (fun branch _ => ?_) (hvalid old hold hfirst)
      (hvalid' old hold hwrites)
    exact (h.replace_replace old branch.1 branch.2).imp And.right And.right
  · rw [hafter]
    exact hvalid' old hold hwrites

end Apart

/-! ## One update after another -/

/-- The record of an entry after one update and then another one. -/
def afterBoth (a b : Edit) (table : Table) (entry : Entry) : Document :=
  b.after (table.withRecords (a.after table)) { entry with record := a.after table entry }

section

variable {table : Table} {entry : Entry} (ha : a.Suits table) (hb : b.Suits table)
  (hentry : entry ∈ table.entries)

include ha hb hentry

/-- The second update makes the same of the leaves of an entry as it would without the first one. -/
theorem same_afterBoth :
    Record.SameButUpdated (afterBoth a b table entry)
      (mapLeaves (fun names leaf => b.replace entry names (a.replace entry names leaf))
        entry.record) := by
  have hsecond := same_after (ha.after hb) (List.mem_map_of_mem hentry)
  rw [replace_eq (isEdited_after ha hentry) hb.query] at hsecond
  have hfirst := (same_after ha hentry).mapLeaves fun names leaf =>
    (b.isEdit_replace entry).system Record.updatedField names leaf (by decide)
  rw [Document.mapLeaves_mapLeaves (a.isEdit_replace entry).isLeaf] at hfirst
  exact hsecond.trans hfirst

theorem leaf?_afterBoth {path : String}
    (houtside : Path.isWithin path Record.updatedField = false) :
    leaf? (afterBoth a b table entry) path = (leaf? entry.record path).map fun leaf =>
      b.replace entry (Path.segments path) (a.replace entry (Path.segments path) leaf) := by
  rw [afterBoth, leaf?_after (ha.after hb) (List.mem_map_of_mem hentry) houtside,
    replace_eq (isEdited_after ha hentry) hb.query]
  dsimp only
  rw [leaf?_after ha hentry houtside, Option.map_map]
  rfl

variable (h : a.Apart b)

include h

/-- The order of the updates shows in the stamps only. -/
theorem Apart.afterBoth_comm :
    Record.SameButUpdated (afterBoth a b table entry) (afterBoth b a table entry) := by
  have horder : (fun names leaf => b.replace entry names (a.replace entry names leaf)) =
      fun names leaf => a.replace entry names (b.replace entry names leaf) :=
    funext fun names => funext fun leaf => h.comm entry names leaf
  have hfirst := same_afterBoth ha hb hentry
  rw [horder] at hfirst
  exact hfirst.trans (same_afterBoth hb ha hentry).symm

theorem Apart.leaf?_afterBoth_comm {path : String}
    (houtside : Path.isWithin path Record.updatedField = false) :
    leaf? (afterBoth a b table entry) path = leaf? (afterBoth b a table entry) path := by
  rw [leaf?_afterBoth ha hb hentry houtside, leaf?_afterBoth hb ha hentry houtside]
  cases leaf? entry.record path with
  | none => rfl
  | some leaf => rw [Option.map_some, Option.map_some, h.comm]

/-- A leaf that the first update changed stays as it left it. -/
theorem Apart.leaf?_first {path : String}
    (houtside : Path.isWithin path Record.updatedField = false)
    (hchanged : leaf? (a.after table entry) path ≠ leaf? entry.record path) :
    leaf? (afterBoth a b table entry) path = leaf? (a.after table entry) path := by
  rw [leaf?_after ha hentry houtside] at hchanged ⊢
  rw [leaf?_afterBoth ha hb hentry houtside]
  cases hleaf : leaf? entry.record path with
  | none => rfl
  | some leaf =>
    rw [hleaf, Option.map_some, Ne, Option.some.injEq] at hchanged
    rw [Option.map_some, Option.map_some, h entry _ leaf hchanged]

end

end Edit

/-! ## Both orders -/

/-- After one update another one that writes other leaves succeeds, if it does without it. -/
theorem update_after_update {a b : Edit} {store : Store} {config : Config} {table : Table}
    (hactor : store.registry.resolve b.stamp.actor = .ok b.actor) (ha : a.Suits table)
    (hb : b.Suits table) (h : a.Apart b) (hvalid : a.WritesValid config table)
    (hvalid' : b.WritesValid config table) :
    ∃ outcome, exec (b.run config)
        (store.withTable config.name (table.withRecords (a.after table))) =
      (.ok outcome, store.withTable config.name (table.withRecords (a.afterBoth b table))) := by
  have htable : (store.withTable config.name (table.withRecords (a.after table))).backend.table?
      config.name = .ok (table.withRecords (a.after table)) := Backend.table?_withTable _ _ _
  have htwice : (table.withRecords (a.after table)).withRecords
      (b.after (table.withRecords (a.after table))) = table.withRecords (a.afterBoth b table) := by
    rw [Table.withRecords, Table.withRecords, Table.withRecords, List.map_map]
    rfl
  have hactor' : (store.withTable config.name (table.withRecords (a.after table))).registry.resolve
      b.stamp.actor = .ok b.actor := hactor
  refine (Edit.succeeds_iff hactor' htable (ha.after hb)).2
    ⟨h.writesValid_after ha hb.query hvalid hvalid', ?_⟩
  rw [htwice, Store.withTable_withTable]

/-- Independent updates commute. If each of two updates whose patches have no leaf path in common
succeeds alone, both orders succeed. They end in the same entries, twins included, but for the
stamps of the last change, and what either of them changed outside of that stamp is there in the
end. -/
theorem updates_commute {store store₁ store₂ : Store} (hr : store.Reachable) {config : Config}
    (hfree : ∀ table, store.backend.table? config.name = .ok table →
      ∀ entry ∈ table.entries, DotFree entry.record)
    {query₁ query₂ : Query} (hquery₁ : query₁.RestrictsByIds) (hquery₂ : query₂.RestrictsByIds)
    {patch₁ patch₂ : Document} (hpatch₁ : DistinctKeys patch₁) (hpatch₂ : DistinctKeys patch₂)
    (hapart : ∀ path ∈ Dict.keys (flatten patch₁), path ∉ Dict.keys (flatten patch₂))
    {actorId₁ actorId₂ : String} {now₁ now₂ : Int64} {outcome₁ outcome₂ : Outcome}
    (h₁ : exec (Store.update config actorId₁ query₁ patch₁ now₁) store = (.ok outcome₁, store₁))
    (h₂ : exec (Store.update config actorId₂ query₂ patch₂ now₂) store = (.ok outcome₂, store₂)) :
    ∃ (table : Table) (after₁ after₂ after₁₂ after₂₁ : Entry → Document)
      (outcome₁₂ outcome₂₁ : Outcome),
      store.backend.table? config.name = .ok table ∧
      store₁ = store.withTable config.name (table.withRecords after₁) ∧
      store₂ = store.withTable config.name (table.withRecords after₂) ∧
      exec (Store.update config actorId₂ query₂ patch₂ now₂) store₁ =
        (.ok outcome₁₂, store.withTable config.name (table.withRecords after₁₂)) ∧
      exec (Store.update config actorId₁ query₁ patch₁ now₁) store₂ =
        (.ok outcome₂₁, store.withTable config.name (table.withRecords after₂₁)) ∧
      ∀ entry ∈ table.entries,
        Record.SameButUpdated (after₁₂ entry) (after₂₁ entry) ∧
        ∀ after ∈ [after₁₂, after₂₁], ∀ path, Path.isWithin path Record.updatedField = false →
          (leaf? (after₁ entry) path ≠ leaf? entry.record path →
            leaf? (after entry) path = leaf? (after₁ entry) path) ∧
          (leaf? (after₂ entry) path ≠ leaf? entry.record path →
            leaf? (after entry) path = leaf? (after₂ entry) path) := by
  obtain ⟨actor₁, table, -, hactor₁, htable, -⟩ := update_payload h₁
  obtain ⟨actor₂, table', -, hactor₂, htable', -⟩ := update_payload h₂
  obtain rfl := Except.ok.inj (htable.symm.trans htable')
  have hsound := hr.isSound _ _ (Backend.table?_eq_ok.1 htable)
  let a : Edit := ⟨actor₁, ⟨now₁, actorId₁⟩, query₁, patch₁⟩
  let b : Edit := ⟨actor₂, ⟨now₂, actorId₂⟩, query₂, patch₂⟩
  have ha : a.Suits table := ⟨hsound, hfree table htable, hquery₁, hpatch₁⟩
  have hb : b.Suits table := ⟨hsound, hfree table htable, hquery₂, hpatch₂⟩
  have h : a.Apart b := Edit.apart_of_paths hapart
  obtain ⟨hvalid₁, rfl⟩ := (Edit.succeeds_iff hactor₁ htable ha).1 ⟨outcome₁, h₁⟩
  obtain ⟨hvalid₂, rfl⟩ := (Edit.succeeds_iff hactor₂ htable hb).1 ⟨outcome₂, h₂⟩
  obtain ⟨outcome₁₂, h₁₂⟩ := update_after_update hactor₂ ha hb h hvalid₁ hvalid₂
  obtain ⟨outcome₂₁, h₂₁⟩ :=
    update_after_update hactor₁ hb ha h.symm hvalid₂ hvalid₁
  refine ⟨table, a.after table, b.after table, a.afterBoth b table, b.afterBoth a table, outcome₁₂,
    outcome₂₁, htable, rfl, rfl, h₁₂, h₂₁, fun entry hentry => ?_⟩
  refine ⟨h.afterBoth_comm ha hb hentry, fun after hafter path houtside => ?_⟩
  have horder := h.leaf?_afterBoth_comm ha hb hentry houtside
  have hlast : leaf? (after entry) path = leaf? (a.afterBoth b table entry) path := by
    rcases List.mem_pair.1 hafter with rfl | rfl
    · rfl
    · exact horder.symm
  rw [hlast]
  refine ⟨fun hchanged => h.leaf?_first ha hb hentry houtside hchanged, fun hchanged => ?_⟩
  rw [horder]
  exact h.symm.leaf?_first hb ha hentry houtside hchanged

/-- A collection with a shape, in which a member renames a person while the superadmin sets an age
beside a grade that the member may not update. -/
theorem updates_commute_rename :
    let shape : Shape :=
      .object [("name", .string), ("data", .object [("age", .number), ("grade", .number)])]
    let overrides := SortedDict.empty.insert "data.grade" { update := ["hr"] }
    let config : Config := { name := "people", shape := some shape, overrides := overrides }
    let person (name : String) (age : Int32) (updated : Stamp) : Document := [("_id", .string "1"),
      ("_created", Stamp.toValue ⟨1, "superadmin"⟩), ("_updated", updated.toValue),
      ("_deleted", .boolean false), ("name", .string name),
      ("data", .document [("age", .int32 age), ("grade", .int32 1)])]
    let store (record : Document) : Store := ⟨(Registry.empty "superadmin").insert ⟨"bob", []⟩,
      SortedDict.empty.insert "people" config,
      Backend.empty.withTable "people" ⟨[⟨record, config.twin "1" [] .empty⟩]⟩⟩
    let ann := store (person "Ann" 3 ⟨1, "superadmin"⟩)
    let named : Document := [("name", .string "Bea"), ("data", .document [("grade", .int32 2)])]
    let aged : Document := [("data", .document [("age", .int32 4)])]
    let rename := Store.update config "bob" {} named 2
    let birthday := Store.update config "superadmin" {} aged 3
    ann.Reachable ∧
      (∃ outcome, exec rename ann = (.ok outcome, store (person "Bea" 3 ⟨2, "bob"⟩))) ∧
      (∃ outcome, exec birthday ann = (.ok outcome, store (person "Ann" 4 ⟨3, "superadmin"⟩))) ∧
      ∃ outcome outcome' after after',
        exec birthday (store (person "Bea" 3 ⟨2, "bob"⟩)) = (.ok outcome, store after) ∧
        exec rename (store (person "Ann" 4 ⟨3, "superadmin"⟩)) = (.ok outcome', store after') ∧
        Record.SameButUpdated after after' ∧
        leaf? after "name" = some (.string "Bea") ∧ leaf? after "data.age" = some (.int32 4) := by
  intro shape overrides config person store ann named aged rename birthday
  let entry : Entry := ⟨person "Ann" 3 ⟨1, "superadmin"⟩, config.twin "1" [] .empty⟩
  have hr : ann.Reachable := by
    have hann : ann = (Store.empty {}).after [.registerActor ⟨"bob", []⟩,
        .registerCollection config, .create config "superadmin" [⟨"1", [("name", .string "Ann"),
          ("data", .document [("age", .int32 3), ("grade", .int32 1)])]⟩] .empty 1] := by
      simp only [ann, store, person, config, overrides, shape]
      rfl
    rw [hann]
    refine (Store.Reachable.empty {}).after ?_
    simp [Request.WellFormed, DistinctKeys, Value.DistinctKeys, Value.FieldsDistinctKeys]
  have htable : ann.backend.table? config.name = .ok ⟨[entry]⟩ := rfl
  have hfree : ∀ other ∈ [entry], DotFree other.record := by
    simp [entry, person, Stamp.toValue, DotFree, Value.DotFree, Value.FieldsDotFree]
  -- A store is left with one record.
  have hleft : ∀ after : Entry → Document,
      ann.withTable config.name (Table.withRecords ⟨[entry]⟩ after) = store (after entry) := by
    intro after
    rw [Store.withTable]
    simp only [ann, store, config]
    rw [Backend.withTable_withTable]
    rfl
  have hruns : ∀ (edit : Edit) (record : Document),
      ann.registry.resolve edit.stamp.actor = .ok edit.actor → edit.query.RestrictsByIds →
      DistinctKeys edit.patch → edit.Writes entry →
      config.validate (mapLeaves (edit.replace entry) entry.record) = .ok () →
      Record.stampUpdated (mapLeaves (edit.replace entry) entry.record) edit.stamp = record →
      ∃ outcome, exec (edit.run config) ann = (.ok outcome, store record) := by
    rintro edit _ hactor hquery hpatch hwrites hvalid rfl
    have hedit : edit.Suits ⟨[entry]⟩ :=
      ⟨hr.isSound _ _ (Backend.table?_eq_ok.1 htable), hfree, hquery, hpatch⟩
    have hruns := Edit.succeeds_of_writes hactor htable hedit
      (List.forall_mem_singleton.2 hwrites) (List.forall_mem_singleton.2 hvalid)
    rwa [hleft] at hruns
  have hbob : ann.registry.resolve "bob" = .ok (.member ⟨"bob", []⟩) := rfl
  have hsuperadmin : ann.registry.resolve "superadmin" = .ok .superadmin := rfl
  have hquery : Query.RestrictsByIds {} := ⟨rfl, rfl, rfl⟩
  have hpatches : DistinctKeys named ∧ DistinctKeys aged := by
    simp [named, aged, DistinctKeys, Value.DistinctKeys, Value.FieldsDistinctKeys]
  have hrename : ∃ outcome, exec rename ann = (.ok outcome, store (person "Bea" 3 ⟨2, "bob"⟩)) := by
    refine hruns ⟨.member ⟨"bob", []⟩, ⟨2, "bob"⟩, {}, named⟩ _ hbob hquery hpatches.1 ⟨rfl, ?_⟩
      ?_ ?_
    · exact ⟨(["name"], .string "Ann"),
        Document.mem_branches_of_walk? (List.cons_ne_nil _ _) rfl (by
          simp only [entry, person]
          rfl),
        by simp only [entry, named, config, overrides, shape]; rfl⟩
    · simp only [entry, person, config, overrides, shape, named]
      rfl
    · simp only [entry, person, config, overrides, shape, named]
      rfl
  have hbirthday : ∃ outcome,
      exec birthday ann = (.ok outcome, store (person "Ann" 4 ⟨3, "superadmin"⟩)) := by
    refine hruns ⟨.superadmin, ⟨3, "superadmin"⟩, {}, aged⟩ _ hsuperadmin hquery hpatches.2
      ⟨rfl, ?_⟩ ?_ ?_
    · exact ⟨(["data", "age"], .int32 3),
        Document.mem_branches_of_walk? (List.cons_ne_nil _ _) rfl (by
          simp only [entry, person]
          rfl),
        by simp only [entry, aged, config, overrides, shape]; rfl⟩
    · simp only [entry, person, config, overrides, shape, aged]
      rfl
    · simp only [entry, person, config, overrides, shape, aged]
      rfl
  obtain ⟨outcome₁, h₁⟩ := hrename
  obtain ⟨outcome₂, h₂⟩ := hbirthday
  have hapart : ∀ path ∈ Dict.keys (flatten named), path ∉ Dict.keys (flatten aged) := by
    decide
  obtain ⟨table, after₁, after₂, after₁₂, after₂₁, outcome₁₂, outcome₂₁, htable', hstore₁, hstore₂,
    h₁₂, h₂₁, hentries⟩ :=
    updates_commute hr (fun table htable' => by
      obtain rfl := Except.ok.inj (htable.symm.trans htable')
      exact hfree) hquery hquery hpatches.1 hpatches.2 hapart h₁ h₂
  obtain rfl := Except.ok.inj (htable.symm.trans htable')
  have htells : ∀ {record other : Document}, store record = store other → record = other := by
    intro record other h
    have htables := congrArg (fun store => store.backend.table? "people") h
    simp only [store, Backend.table?_withTable, Except.ok.injEq, Table.mk.injEq, List.cons.injEq,
      Entry.mk.injEq, and_true] at htables
    exact htables
  rw [hleft] at hstore₁ hstore₂ h₁₂ h₂₁
  have hname : leaf? (after₁ entry) "name" = some (.string "Bea") := by
    rw [← htells hstore₁]
    rfl
  have hage : leaf? (after₂ entry) "data.age" = some (.int32 4) := by
    rw [← htells hstore₂]
    rfl
  have hold : leaf? entry.record "name" = some (.string "Ann") ∧
      leaf? entry.record "data.age" = some (.int32 3) := ⟨rfl, rfl⟩
  obtain ⟨hsame, hkept⟩ := hentries entry (List.mem_singleton_self _)
  have hnameKept := (hkept after₁₂ List.mem_cons_self "name" rfl).1 (by simp [hname, hold])
  have hageKept := (hkept after₁₂ List.mem_cons_self "data.age" rfl).2 (by simp [hage, hold])
  exact ⟨hr, ⟨outcome₁, h₁⟩, ⟨outcome₂, h₂⟩, outcome₁₂, outcome₂₁, _, _, h₁₂, h₂₁, hsame,
    hnameKept.trans hname, hageKept.trans hage⟩

end FieldGuard
