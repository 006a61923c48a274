import FieldGuard.Proofs.Document.Pruning
import FieldGuard.Proofs.Permission.Restriction
import Mathlib.Data.List.Forall2

/-!
# Reduction is exact

Where no field name has a dot, reducing a selection withholds the leaves within denied paths and
nothing else, in every record and for every twin: names that merely start alike stay, and so do
empty documents, containers of which something is left, and the order of all of these
(`reduce_withholds_exactly`).
-/

namespace FieldGuard

open Document (DotFree DistinctKeys flatten nest withoutPaths)

variable (actor : Actor) (operation : Operation) {entry : Entry}

theorem redactEntry_record (hfree : DotFree entry.record) (hd : DistinctKeys entry.record) :
    (actor.redactEntry operation entry).record =
      nest (withoutPaths (flatten entry.record)
        (actor.restrictedPaths entry.permissions (flatten entry.record) operation)) :=
  Document.redact_eq_nest hfree hd _

theorem flatten_redactEntry (hfree : DotFree entry.record) (hd : DistinctKeys entry.record) :
    flatten (actor.redactEntry operation entry).record =
      withoutPaths (flatten entry.record) (actor.deniedPaths entry.permissions operation) := by
  rw [Actor.redactEntry, Document.flatten_redact hfree hd, Actor.withoutPaths_restrictedPaths]

/-- What is left of a record are its branches outside of the denied paths. -/
theorem redactEntry_record_eq_prune (hfree : DotFree entry.record)
    (hd : DistinctKeys entry.record) :
    (actor.redactEntry operation entry).record =
      Document.prune (Document.isOutside (actor.deniedPaths entry.permissions operation))
        entry.record := by
  refine (Document.redact_eq_prune hfree hd _).trans (Document.prune_congr fun branch hbranch => ?_)
  have hkey : Path.ofSegments branch.1 ∈ Dict.keys (flatten entry.record) :=
    Document.mem_keys_flatten.2 ⟨branch, hbranch, rfl⟩
  rw [Document.isOutside, Document.isOutside, Actor.isWithinAny_restrictedPaths_iff hkey]

/-- A record of which no leaf lies within a denied path is not changed. -/
theorem redactEntry_record_eq_self (hfree : DotFree entry.record) (hd : DistinctKeys entry.record)
    (h : ∀ leaf ∈ flatten entry.record,
      Path.isWithinAny leaf.1 (actor.deniedPaths entry.permissions operation) = false) :
    (actor.redactEntry operation entry).record = entry.record := by
  have hall : withoutPaths (flatten entry.record) (actor.deniedPaths entry.permissions operation) =
      flatten entry.record :=
    List.filter_eq_self.2 fun leaf hleaf => by simp [h leaf hleaf]
  rw [redactEntry_record actor operation hfree hd, Actor.withoutPaths_restrictedPaths, hall,
    Document.nest_flatten hfree hd]

/-- What a member may see of a selection without dots in field names, entry by entry: the leaves
of the record in their order, less those within a path that requires a token the member lacks;
and the record itself where there is none of these. A twin that requires nothing and a record
without restricted paths are shown as they are, which is what taking out the restricted paths
comes to. -/
theorem reduce_withholds_exactly (selection : Selection)
    (hfree : ∀ entry ∈ selection.entries, entry.record.DotFree)
    (hd : ∀ entry ∈ selection.entries, entry.record.DistinctKeys)
    (member : Member) (operation : Operation) :
    List.Forall₂
      (fun entry redacted =>
        let denied := entry.permissions.deniedPaths member operation
        redacted.id = entry.id ∧
        flatten redacted.record =
          (flatten entry.record).filter (fun leaf => !Path.isWithinAny leaf.1 denied) ∧
        ((∀ leaf ∈ flatten entry.record, Path.isWithinAny leaf.1 denied = false) →
          redacted.record = entry.record) ∧
        redacted.record = nest (withoutPaths (flatten entry.record)
          (entry.permissions.restrictedPaths (flatten entry.record) member operation)))
      selection.entries (reduce (.member member) selection operation).records := by
  rw [reduce_records, List.forall₂_map_right_iff, List.forall₂_same]
  intro entry hentry
  have hf := hfree entry hentry
  have hk := hd entry hentry
  exact ⟨rfl, flatten_redactEntry (.member member) operation hf hk,
    redactEntry_record_eq_self (.member member) operation hf hk,
    redactEntry_record (.member member) operation hf hk⟩

/-- A record with a container of which something is withheld, a name that starts like a guarded
one, and an empty document. -/
theorem reduce_withholds_exactly_age :
    let record : Document := [("data", .document [("age", .int32 3), ("city", .string "Lyon")]),
      ("database", .null), ("empty", .document [])]
    let twin := (Twin.empty "1").set "data.age" { read := ["age"] }
    record.DotFree ∧ record.DistinctKeys ∧
      (reduce (.member ⟨"bob", []⟩) ⟨[⟨record, twin⟩], false⟩ .read).records.map
          (fun redacted => (redacted.id, flatten redacted.record)) =
        [("1", [("data.city", .string "Lyon"), ("database", .null), ("empty", .document [])])] := by
  intro record twin
  have hfree : record.DotFree := by
    simp [record, DotFree, Value.DotFree, Value.FieldsDotFree]
  have hd : record.DistinctKeys := by
    simp [record, DistinctKeys, Value.DistinctKeys, Value.FieldsDistinctKeys]
  have h := reduce_withholds_exactly ⟨[⟨record, twin⟩], false⟩
    (by simpa using hfree) (by simpa using hd) ⟨"bob", []⟩ .read
  refine ⟨hfree, hd, ?_⟩
  obtain ⟨redacted, rest, ⟨hid, hleaves, -⟩, hrest, hrecords⟩ := List.forall₂_cons_left_iff.1 h
  rw [List.forall₂_nil_left_iff.1 hrest] at hrecords
  rw [hrecords, List.map_singleton, hid, hleaves]
  rfl

end FieldGuard
