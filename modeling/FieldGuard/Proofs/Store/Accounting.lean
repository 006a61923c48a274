import FieldGuard.Proofs.Permission.Outermost
import FieldGuard.Proofs.Permission.Tally
import FieldGuard.Proofs.Store.Change

/-!
# What is withheld is accounted for

An outcome says whether anything was withheld, and how often each path was. An operation that writes
withholds paths twice, once for itself and once for reading what it shows, and the two lists meet in
one tally. As a record that paths were taken out of holds nothing at or below them, no path that
reading then withholds lies within one of these: nothing is counted twice, and nothing that is
withheld goes uncounted.

* `Outcome.Accounts`: the flag, the status and the tally of an outcome agree;
* `Actor.isWithinAny_restrictedPaths_redact`: what reading withholds of a redacted record lies
  outside of the paths taken out;
* `withheld_accounted`: what each operation counts.
-/

namespace FieldGuard

open Document (flatten redact)

/-! ## Outcomes -/

/-- The outcome of an operation on a number of records agrees with itself and with how often each
path was withheld: something is said to be withheld exactly if a path is in the tally; nothing was
found exactly if nothing is returned, and otherwise the outcome is partial exactly if something was
withheld; and the tally holds the paths withheld, each with its count, which is positive and at most
the number of records. -/
structure Outcome.Accounts (outcome : Outcome) (selected : Nat) (withheld : String → Nat) :
    Prop where
  restricted : outcome.isRestricted = true ↔ outcome.notPermitted.entries ≠ []
  notFound : outcome.status = .notFound ↔ outcome.payload = []
  partialContent : outcome.payload ≠ [] →
    (outcome.status = .partialContent ↔ outcome.isRestricted = true)
  counts : ∀ path, (outcome.notPermitted.get? path).getD 0 = withheld path
  bounds : ∀ path count, outcome.notPermitted.get? path = some count →
    1 ≤ count ∧ count ≤ selected

theorem Outcome.accounts_make {payload : List Document} {isRestricted isLimited : Bool}
    {tally : Tally} {selected : Nat} {withheld : String → Nat} (hcounts : tally.Counts withheld)
    (hrestricted : isRestricted = true ↔ ∃ path, withheld path ≠ 0)
    (hbound : ∀ path, withheld path ≤ selected) :
    (Outcome.make payload isRestricted isLimited tally).Accounts selected withheld where
  restricted := hrestricted.trans hcounts.entries_ne_nil_iff.symm
  notFound := by
    cases payload <;> cases isRestricted <;> simp [make]
  partialContent := by
    cases payload <;> cases isRestricted <;> simp [make]
  counts := hcounts.getD
  bounds := fun path count hget => by
    obtain ⟨hpos, rfl⟩ := hcounts.pos hget
    exact ⟨hpos, hbound path⟩

/-- The tally is empty where no path is withheld. -/
theorem Outcome.Accounts.notPermitted_eq_nil_iff {outcome : Outcome} {selected : Nat}
    {withheld : String → Nat} (h : outcome.Accounts selected withheld) :
    outcome.notPermitted.entries = [] ↔ ∀ path, withheld path = 0 := by
  constructor
  · intro hnil path
    have hnone : outcome.notPermitted.get? path = none := by
      rw [SortedDict.get?, hnil]
      rfl
    rw [← h.counts path, hnone]
    rfl
  · intro hzero
    refine List.eq_nil_iff_forall_not_mem.2 ?_
    rintro ⟨path, count⟩ hmem
    have hget : outcome.notPermitted.get? path = some count :=
      (Dict.get?_eq_some_iff_mem outcome.notPermitted.hasDistinctKeys).2 hmem
    have hcount := h.counts path
    rw [hget, hzero] at hcount
    have hpos := (h.bounds path count hget).1
    exact absurd hcount (Nat.ne_of_gt hpos)

/-- Something is said to be withheld where some path is. -/
theorem Outcome.Accounts.isRestricted_iff {outcome : Outcome} {selected : Nat}
    {withheld : String → Nat} (h : outcome.Accounts selected withheld) :
    outcome.isRestricted = true ↔ ∃ path, withheld path ≠ 0 := by
  rw [h.restricted, ne_eq, h.notPermitted_eq_nil_iff, not_forall]

/-! ## Reductions -/

section

variable (actor : Actor) (selection : Selection) (operation : Operation)

theorem Actor.nodup_restrictedPaths (twin : Twin) (flat : Document) :
    (actor.restrictedPaths twin flat operation).Nodup := by
  cases actor with
  | superadmin => exact List.nodup_nil
  | member m => exact Twin.nodup_restrictedPaths twin flat m operation

/-- Something of a selection is withheld if something of an entry is. -/
theorem isRestricted_reduce :
    (reduce actor selection operation).isRestricted = true ↔
      ∃ entry ∈ selection.entries, (actor.redactEntry operation entry).restrictedPaths ≠ [] := by
  cases actor with
  | superadmin => simp [reduce, Actor.redactEntry, Actor.restrictedPaths]
  | member m => simp [reduce, Redacted.isRestricted, Actor.redactEntry_member]

/-- A reduction counts for each path the entries of which it is withheld. -/
theorem counts_reduce :
    (reduce actor selection operation).notPermitted.Counts fun path =>
      selection.entries.countP fun entry =>
        path ∈ (actor.redactEntry operation entry).restrictedPaths := by
  cases actor with
  | superadmin =>
    refine Tally.counts_empty.congr fun path => (List.countP_eq_zero.2 ?_).symm
    simp [Actor.redactEntry, Actor.restrictedPaths]
  | member m =>
    simp only [reduce, List.foldl_map, Actor.redactEntry_member]
    refine (Tally.counts_empty.foldl fun entry _ => ?_).congr fun path => Nat.zero_add _
    exact Actor.nodup_restrictedPaths (.member m) operation entry.permissions (flatten entry.record)

end

/-- Some path is counted if one of the lists holds any. -/
theorem exists_countP_ne_zero_iff {α : Type} {xs : List α} {paths : α → List String} :
    (∃ path, (xs.countP fun x => path ∈ paths x) ≠ 0) ↔ ∃ x ∈ xs, paths x ≠ [] := by
  constructor
  · rintro ⟨path, hne⟩
    obtain ⟨x, hx, hpath⟩ := List.countP_pos_iff.1 (Nat.pos_of_ne_zero hne)
    exact ⟨x, hx, List.ne_nil_of_mem (of_decide_eq_true hpath)⟩
  · rintro ⟨x, hx, hne⟩
    obtain ⟨path, hpath⟩ := List.exists_mem_of_ne_nil _ hne
    have hpos : 0 < xs.countP fun x => path ∈ paths x :=
      List.countP_pos_iff.2 ⟨x, hx, decide_eq_true hpath⟩
    exact ⟨path, Nat.ne_of_gt hpos⟩

/-- What is counted of some elements and, apart from it, of some of them is at most their number. -/
theorem countP_add_countP_le {α : Type} {p q : α → Bool} {xs ys : List α} (hsub : ys.Sublist xs)
    (hapart : ∀ y ∈ ys, q y = true → p y = false) : xs.countP p + ys.countP q ≤ xs.length := by
  have hq : ys.countP q ≤ xs.countP fun x => !p x :=
    calc ys.countP q
        ≤ ys.countP fun x => !p x :=
          List.countP_mono_left fun y hy hqy => by rw [hapart y hy hqy]; rfl
      _ ≤ xs.countP fun x => !p x := hsub.countP_le
  have hall : xs.length = xs.countP p + xs.countP fun x => !p x := by
    simpa using List.length_eq_countP_add_countP p (l := xs)
  omega

/-! ## Changes -/

/-- What reading withholds of a record that paths were taken out of lies outside of these: the
record holds nothing at or below them. -/
theorem Actor.isWithinAny_restrictedPaths_redact {actor : Actor} {twin : Twin} {d : Document}
    {paths : List String} {operation : Operation} {path : String}
    (h : path ∈ actor.restrictedPaths twin (flatten (redact d paths)) operation) :
    Path.isWithinAny path paths = false := by
  obtain ⟨key, hkey, hwithin⟩ := List.any_eq_true.1 (Actor.mem_restrictedPaths h).2
  obtain ⟨value, hleaf⟩ := Dict.mem_keys.1 hkey
  have hout := (Document.mem_flatten_redact hleaf).2
  by_contra hin
  rw [Bool.not_eq_false, Path.isWithinAny_iff] at hin
  obtain ⟨parent, hparent, hpath⟩ := hin
  have hkeyIn := Path.isWithinAny_iff.2 ⟨parent, hparent, Path.isWithin_trans hwithin hpath⟩
  rw [hkeyIn] at hout
  cases hout

/-- What an update shows of a record, before what may not be read is taken out of it: the patched
record without the paths withheld from the update. -/
def patchedView (actor : Actor) (stamp : Stamp) (patch : Document) (entry : Entry) : Document :=
  redact (patched actor stamp patch entry) (actor.redactEntry .update entry).restrictedPaths

section

variable (actor : Actor) (stamp : Stamp) (patch : Document) (entry : Entry)

theorem unreadable_patchChange : (patchChange actor stamp patch entry).unreadable =
    actor.restrictedPaths entry.permissions (flatten (patchedView actor stamp patch entry))
      .read := by
  simp only [patchChange, Change.make, Actor.readableView_eq]
  rfl

/-- All that is unreadable of a patched record is reported: nothing of it was before. -/
theorem unreported_patchChange : (patchChange actor stamp patch entry).unreported =
    (patchChange actor stamp patch entry).unreadable := by
  refine List.filter_eq_self.2 fun path hpath => ?_
  change path ∈ (patchChange actor stamp patch entry).unreadable at hpath
  rw [unreadable_patchChange] at hpath
  simpa using Actor.isWithinAny_restrictedPaths_redact hpath

theorem unreadable_removal : (Change.removal actor stamp entry).unreadable =
    actor.restrictedPaths entry.permissions
      (flatten (Record.stampDeleted entry.record stamp)) .read := by
  simp only [Change.removal, Change.make, Actor.readableView_eq]

theorem unreported_removal : (Change.removal actor stamp entry).unreported =
    (Change.removal actor stamp entry).unreadable :=
  List.filter_eq_self.2 fun _ _ => rfl

end

/-- Changes to some of the entries of a selection, each of which reports all that it makes
unreadable, none of it withheld before. -/
theorem accounts_outcomeOf (actor : Actor) (selection : Selection) (operation : Operation)
    {written : List Entry} (hsub : written.Sublist selection.entries) {change : Entry → Change}
    {unreadable : Entry → List String}
    (hunreadable : ∀ entry, (change entry).unreadable = unreadable entry)
    (hunreported : ∀ entry, (change entry).unreported = unreadable entry)
    (hnodup : ∀ entry, (unreadable entry).Nodup)
    (hapart : ∀ entry ∈ written, ∀ path ∈ (actor.redactEntry operation entry).restrictedPaths,
      path ∉ unreadable entry) :
    (Store.outcomeOf (reduce actor selection operation) (written.map change)).Accounts
      selection.entries.length fun path =>
        (selection.entries.countP fun entry =>
          path ∈ (actor.redactEntry operation entry).restrictedPaths) +
        written.countP fun entry => path ∈ unreadable entry := by
  refine Outcome.accounts_make ?_ ?_ fun path => ?_
  · rw [List.foldl_map]
    simp only [hunreported]
    exact (counts_reduce actor selection operation).foldl fun entry _ => hnodup entry
  · simp only [Bool.or_eq_true, isRestricted_reduce, ne_eq, Nat.add_eq_zero_iff, not_and_or,
      exists_or, exists_countP_ne_zero_iff]
    refine or_congr_right ?_
    simp [hunreadable]
  · refine countP_add_countP_le hsub fun entry hentry hread => ?_
    rw [decide_eq_true_eq] at hread
    exact decide_eq_false fun hpath => hapart entry hentry path hpath hread

/-! ## Operations -/

theorem accounts_ofReduction (actor : Actor) (selection : Selection) (operation : Operation) :
    (Outcome.ofReduction (reduce actor selection operation)).Accounts selection.entries.length
      fun path => selection.entries.countP fun entry =>
        path ∈ (actor.redactEntry operation entry).restrictedPaths :=
  Outcome.accounts_make (counts_reduce actor selection operation)
    ((isRestricted_reduce actor selection operation).trans exists_countP_ne_zero_iff.symm)
    fun _ => List.countP_le_length

/-- No path is withheld of a record for updating it and then for reading what is shown of it. -/
theorem not_mem_unreadable_patchedView {actor : Actor} {stamp : Stamp} {patch : Document}
    {entry : Entry} {path : String}
    (h : path ∈ (actor.redactEntry .update entry).restrictedPaths) :
    path ∉ actor.restrictedPaths entry.permissions
      (flatten (patchedView actor stamp patch entry)) .read := by
  intro hread
  have hout := Actor.isWithinAny_restrictedPaths_redact hread
  rw [Path.isWithinAny_iff.2 ⟨path, h, Path.isWithin_refl path⟩] at hout
  cases hout

theorem restrictedPaths_eq_nil_of_removable {actor : Actor} {entries : List Entry} {entry : Entry}
    (h : entry ∈ removable actor entries) :
    (actor.redactEntry .remove entry).restrictedPaths = [] := by
  simpa [Redacted.isRestricted] using (List.mem_filter.1 h).2

/-- What is withheld is accounted for, in every state, for every actor and query and, in an update,
every patch: each operation that succeeds counts for each path the selected records of which the
path is withheld for the operation itself; a write also counts the records written of which it is
withheld from reading what is shown of them, and no record is counted for both. The flag, the status
and the bounds of the counts follow, and the tally of the superadmin is empty. -/
theorem withheld_accounted (store : Store) (config : Config) (actorId : String) (query : Query) :
    (∀ outcome store', exec (Store.read config actorId query) store = (.ok outcome, store') →
      ∃ actor table, store.registry.resolve actorId = .ok actor ∧
        store.backend.table? config.name = .ok table ∧
        let selected := (table.select query).entries
        let withheld (entry : Entry) :=
          actor.restrictedPaths entry.permissions (flatten entry.record) .read
        outcome.Accounts selected.length
          (fun path => selected.countP fun entry => path ∈ withheld entry) ∧
        (actor = .superadmin → outcome.notPermitted.entries = [])) ∧
    (∀ patch now outcome store',
      exec (Store.update config actorId query patch now) store = (.ok outcome, store') →
      ∃ actor table table', store.registry.resolve actorId = .ok actor ∧
        store.backend.table? config.name = .ok table ∧
        let selected := table.found query
        let updated := changed actor patch selected
        let after := patched actor ⟨now, actorId⟩ patch
        let withheld (entry : Entry) :=
          actor.restrictedPaths entry.permissions (flatten entry.record) .update
        let unreadable (entry : Entry) := actor.restrictedPaths entry.permissions
          (flatten (redact (after entry) (withheld entry))) .read
        Backend.replaceIn config.name table (updated.map after) = .ok table' ∧
        store' = store.withTable config.name table' ∧
        outcome.Accounts selected.length (fun path =>
          (selected.countP fun entry => path ∈ withheld entry) +
            updated.countP fun entry => path ∈ unreadable entry) ∧
        (∀ entry, ∀ path ∈ withheld entry, path ∉ unreadable entry) ∧
        (actor = .superadmin → outcome.notPermitted.entries = [])) ∧
    ∀ now outcome store',
      exec (Store.remove config actorId query now) store = (.ok outcome, store') →
      ∃ actor table table', store.registry.resolve actorId = .ok actor ∧
        store.backend.table? config.name = .ok table ∧
        let selected := table.found query
        let removed := removable actor selected
        let after (entry : Entry) := Record.stampDeleted entry.record ⟨now, actorId⟩
        let withheld (entry : Entry) :=
          actor.restrictedPaths entry.permissions (flatten entry.record) .remove
        let unreadable (entry : Entry) :=
          actor.restrictedPaths entry.permissions (flatten (after entry)) .read
        Backend.replaceIn config.name table (removed.map after) = .ok table' ∧
        store' = store.withTable config.name table' ∧
        outcome.Accounts selected.length (fun path =>
          (selected.countP fun entry => path ∈ withheld entry) +
            removed.countP fun entry => path ∈ unreadable entry) ∧
        (∀ entry ∈ removed, withheld entry = []) ∧
        (actor = .superadmin → outcome.notPermitted.entries = []) := by
  refine ⟨fun outcome store' h => ?_, fun patch now outcome store' h => ?_,
    fun now outcome store' h => ?_⟩
  · obtain ⟨actor, table, hactor, htable, -, rfl⟩ := read_outcome h
    have haccounts := accounts_ofReduction actor (table.select query) .read
    refine ⟨actor, table, hactor, htable, haccounts, ?_⟩
    rintro rfl
    exact haccounts.notPermitted_eq_nil_iff.2 (by simp [Actor.redactEntry, Actor.restrictedPaths])
  · obtain ⟨actor, table, table', hactor, htable, hreplace, hstore, rfl⟩ := update_outcome h
    have hentries := table.select_whole_entries query
    have hsub : (changed actor patch (table.found query)).Sublist
        (table.select { query with projection := [] }).entries := by
      rw [hentries]
      exact changed_sublist actor patch _
    have haccounts := accounts_outcomeOf actor _ .update hsub
      (unreadable_patchChange actor ⟨now, actorId⟩ patch)
      (fun entry => (unreported_patchChange actor ⟨now, actorId⟩ patch entry).trans
        (unreadable_patchChange actor ⟨now, actorId⟩ patch entry))
      (fun entry => actor.nodup_restrictedPaths .read _ _)
      fun entry _ path hpath => not_mem_unreadable_patchedView hpath
    rw [hentries] at haccounts
    refine ⟨actor, table, table', hactor, htable, hreplace, hstore, haccounts,
      fun entry path hpath => not_mem_unreadable_patchedView hpath, ?_⟩
    rintro rfl
    exact haccounts.notPermitted_eq_nil_iff.2 (by simp [Actor.redactEntry, Actor.restrictedPaths])
  · obtain ⟨actor, table, table', hactor, htable, hreplace, hstore, rfl⟩ := remove_outcome h
    have hentries := table.select_whole_entries query
    have hwhole : ∀ entry ∈ removable actor (table.found query),
        (actor.redactEntry .remove entry).restrictedPaths = [] :=
      fun entry hentry => restrictedPaths_eq_nil_of_removable hentry
    have hsub : (removable actor (table.found query)).Sublist
        (table.select { query with projection := [] }).entries := by
      rw [hentries]
      exact removable_sublist actor _
    have haccounts := accounts_outcomeOf actor _ .remove hsub
      (unreadable_removal actor ⟨now, actorId⟩)
      (fun entry => (unreported_removal actor ⟨now, actorId⟩ entry).trans
        (unreadable_removal actor ⟨now, actorId⟩ entry))
      (fun entry => actor.nodup_restrictedPaths .read _ _)
      fun entry hentry path hpath => absurd (hwhole entry hentry) (List.ne_nil_of_mem hpath)
    rw [hentries] at haccounts
    refine ⟨actor, table, table', hactor, htable, hreplace, hstore, haccounts, hwhole, ?_⟩
    rintro rfl
    exact haccounts.notPermitted_eq_nil_iff.2 (by simp [Actor.redactEntry, Actor.restrictedPaths])

/-- Two records: of the first, a field may not be updated and another not be read; the second may
not be removed, and nothing that the patch changes may be updated in it. -/
theorem withheld_accounted_people :
    let first : Entry :=
      ⟨[("_id", .string "1"), ("name", .string "Ann"), ("age", .int32 3), ("pin", .int32 7)],
        ((Twin.empty "1").set "age" { update := ["hr"] }).set "pin" { read := ["hr"] }⟩
    let second : Entry :=
      ⟨[("_id", .string "2"), ("name", .string "Bob"), ("age", .int32 5)],
        ((Twin.empty "2").set "age" { update := ["hr"], remove := ["hr"] }).set "name"
          { update := ["hr"] }⟩
    let store : Store := ⟨(Registry.empty "root").insert ⟨"bob", []⟩, .empty,
      Backend.empty.withTable "people" ⟨[first, second]⟩⟩
    let config : Config := { name := "people" }
    let patch : Document := [("name", .string "Bea"), ("age", .int32 4)]
    (∃ outcome store', exec (Store.read config "bob" {}) store = (.ok outcome, store') ∧
      outcome.isRestricted = true ∧
      (outcome.notPermitted.get? "pin").getD 0 = 1) ∧
    (∃ outcome store', exec (Store.update config "bob" {} patch 2) store = (.ok outcome, store') ∧
      outcome.isRestricted = true ∧
      (outcome.notPermitted.get? "age").getD 0 = 2 ∧
      (outcome.notPermitted.get? "name").getD 0 = 1 ∧
      (outcome.notPermitted.get? "pin").getD 0 = 1) ∧
    ∃ outcome store', exec (Store.remove config "bob" {} 2) store = (.ok outcome, store') ∧
      outcome.isRestricted = true ∧
      (outcome.notPermitted.get? "age").getD 0 = 1 ∧
      (outcome.notPermitted.get? "pin").getD 0 = 1 := by
  intro first second store config patch
  obtain ⟨hread, hupdate, hremove⟩ := withheld_accounted store config "bob" {}
  have hactorBob : store.registry.resolve "bob" = .ok (.member ⟨"bob", []⟩) := rfl
  have htablePeople : store.backend.table? config.name = .ok ⟨[first, second]⟩ := rfl
  refine ⟨?_, ?_, ?_⟩
  · have h := read_ok hactorBob htablePeople {}
    obtain ⟨actor, table, hactor, htable, haccounts, -⟩ := hread _ _ h
    obtain rfl := Except.ok.inj (hactorBob.symm.trans hactor)
    obtain rfl := Except.ok.inj (htablePeople.symm.trans htable)
    exact ⟨_, _, h, haccounts.isRestricted_iff.2 ⟨"pin", Nat.one_ne_zero⟩, haccounts.counts "pin"⟩
  · have hok : (exec (Store.update config "bob" {} patch 2) store).1.isOk = true := by
      rw [Store.exec_update]
      simp only [store, config, patch, first, second]
      decide +kernel
    obtain ⟨outcome, store', h⟩ := exists_exec_eq_ok hok
    obtain ⟨actor, table, table', hactor, htable, -, -, haccounts, -⟩ := hupdate patch 2 _ _ h
    obtain rfl := Except.ok.inj (hactorBob.symm.trans hactor)
    obtain rfl := Except.ok.inj (htablePeople.symm.trans htable)
    have hcounts := haccounts.counts
    simp only [first, second, patch] at hcounts
    have hpin : (outcome.notPermitted.get? "pin").getD 0 = 1 :=
      (hcounts "pin").trans (by decide +kernel)
    refine ⟨_, _, h, haccounts.isRestricted_iff.2 ⟨"pin", ?_⟩,
      (hcounts "age").trans (by decide +kernel), (hcounts "name").trans (by decide +kernel), hpin⟩
    rw [← haccounts.counts, hpin]
    exact Nat.one_ne_zero
  · have hok : (exec (Store.remove config "bob" {} 2) store).1.isOk = true := by
      rw [Store.exec_remove]
      simp only [store, config, first, second]
      decide +kernel
    obtain ⟨outcome, store', h⟩ := exists_exec_eq_ok hok
    obtain ⟨actor, table, table', hactor, htable, -, -, haccounts, -⟩ := hremove 2 _ _ h
    obtain rfl := Except.ok.inj (hactorBob.symm.trans hactor)
    obtain rfl := Except.ok.inj (htablePeople.symm.trans htable)
    have hcounts := haccounts.counts
    simp only [first, second] at hcounts
    have hpin : (outcome.notPermitted.get? "pin").getD 0 = 1 :=
      (hcounts "pin").trans (by decide +kernel)
    refine ⟨_, _, h, haccounts.isRestricted_iff.2 ⟨"pin", ?_⟩,
      (hcounts "age").trans (by decide +kernel), hpin⟩
    rw [← haccounts.counts, hpin]
    exact Nat.one_ne_zero

end FieldGuard
