import FieldGuard.Proofs.Document.Pruning
import FieldGuard.Proofs.Document.RoundTrip

/-!
# Redacting more than once

Where no name has a dot, redacting prunes, so that two redactions come to one by the paths of both,
in either order: it makes no difference that a document may have gone with the first one, or that
paths of one lie above those of the other. With dots in names a redaction may change more than what
is left out, but the same redaction once more changes nothing.

* `redact_redact`: redacting twice is redacting once, by the paths of both;
* `redact_congr`: the order of the paths and their repetition do not matter;
* `redact_redact_self`: the same redaction once more changes nothing, whatever the names are;
* `redact_composes`: all of it together, with the leaves that stay.
-/

namespace FieldGuard

namespace Document

variable {d : Document} {paths others : List String}

theorem isOutside_append (paths others : List String) :
    isOutside (paths ++ others) = fun names => isOutside paths names && isOutside others names := by
  funext names
  rw [isOutside, Path.isWithinAny, List.any_append, Bool.not_or]
  rfl

section

variable (hfree : DotFree d) (hd : DistinctKeys d)

include hfree hd

theorem redact_redact_eq_prune (paths others : List String) :
    redact (redact d paths) others = prune (isOutside others) (prune (isOutside paths) d) := by
  rw [redact_eq_prune hfree hd,
    redact_eq_prune (dotFree_prune _ hfree) (distinctKeys_prune _ hd)]

/-- Redacting twice is redacting once, by the paths of both. -/
theorem redact_redact (paths others : List String) :
    redact (redact d paths) others = redact d (paths ++ others) := by
  rw [redact_redact_eq_prune hfree hd, prune_prune, ← isOutside_append,
    ← redact_eq_prune hfree hd]

theorem redact_comm (paths others : List String) :
    redact (redact d paths) others = redact (redact d others) paths := by
  rw [redact_redact_eq_prune hfree hd, redact_redact_eq_prune hfree hd, prune_comm]

end

/-- Neither the order of the paths nor their repetition matters. -/
theorem redact_congr (h : ∀ path, path ∈ others ↔ path ∈ paths) (d : Document) :
    redact d others = redact d paths := by
  have hempty : others.isEmpty = paths.isEmpty := by
    rw [Bool.eq_iff_iff, List.isEmpty_iff, List.isEmpty_iff, List.eq_nil_iff_forall_not_mem,
      List.eq_nil_iff_forall_not_mem]
    exact forall_congr' fun path => not_congr (h path)
  have hleaves : withoutPaths (flatten d) others = withoutPaths (flatten d) paths :=
    List.filter_congr fun leaf _ => by rw [Path.isWithinAny_congr h]
  rw [redact, redact, hempty, hleaves]

/-- The same redaction once more changes nothing, whatever the names are. -/
theorem redact_redact_self (hd : DistinctKeys d) (paths : List String) :
    redact (redact d paths) paths = redact d paths := by
  by_cases h : paths.isEmpty = true
  · simp only [redact, if_pos h]
  · simp only [redact, if_neg h]
    exact nest_filter_flatten_nest hd fun leaf => !Path.isWithinAny leaf.1 paths

/-- Redactions compose. Without dots in names, two of them, in either order, are one by the paths of
both, and the leaves that stay are those outside of the paths, in their order. Of the paths only the
set matters. And whatever the names are, redacting once more by the same paths changes nothing. -/
theorem redact_composes :
    (∀ (d : Document) (paths others : List String), DotFree d → DistinctKeys d →
      redact (redact d paths) others = redact d (paths ++ others) ∧
        redact (redact d others) paths = redact d (paths ++ others) ∧
        flatten (redact d paths) =
          (flatten d).filter fun leaf => !paths.any fun path => Path.isWithin leaf.1 path) ∧
    (∀ (d : Document) (paths others : List String), (∀ path, path ∈ others ↔ path ∈ paths) →
      redact d others = redact d paths) ∧
    ∀ (d : Document) (paths : List String), DistinctKeys d →
      redact (redact d paths) paths = redact d paths :=
  ⟨fun _ paths others hfree hd => ⟨redact_redact hfree hd paths others,
      (redact_comm hfree hd others paths).trans (redact_redact hfree hd paths others),
      flatten_redact hfree hd paths⟩,
    fun d _ _ h => redact_congr h d,
    fun _ paths hd => redact_redact_self hd paths⟩

/-- Paths of one list above and below those of the other, one that empties a document and one that
is unknown; and a document in which a name with a dot hides another field. -/
theorem redact_composes_data :
    let paths := ["data.city", "tags"]
    let others := ["tags.first", "data.age", "nope"]
    let d : Document := [("name", .string "Ann"), ("database", .null),
      ("data", .document [("city", .string "Lyon"), ("age", .int32 3)]),
      ("tags", .document [("first", .null), ("last", .null)])]
    let hidden : Document := [("data", .int32 1), ("name", .string "Ann"), ("data.age", .int32 3)]
    DotFree d ∧ DistinctKeys d ∧ DistinctKeys hidden ∧
      redact d (paths ++ others) = [("name", .string "Ann"), ("database", .null)] ∧
      redact (redact d paths) others = redact d (paths ++ others) ∧
      redact (redact d others) paths = redact d (paths ++ others) ∧
      redact d ["tags", "data.city", "tags"] = redact d paths ∧
      flatten (redact d paths) = [("name", .string "Ann"), ("database", .null),
        ("data.age", .int32 3)] ∧
      redact hidden ["name"] = [("data", .document [("age", .int32 3)])] ∧
      redact (redact hidden ["name"]) ["name"] = redact hidden ["name"] := by
  intro paths others d hidden
  have hfree : DotFree d := by
    simp [d, DotFree, Value.DotFree, Value.FieldsDotFree]
  have hd : DistinctKeys d := by
    simp [d, DistinctKeys, Value.DistinctKeys, Value.FieldsDistinctKeys]
  have hhidden : DistinctKeys hidden := by
    simp [hidden, DistinctKeys, Value.DistinctKeys, Value.FieldsDistinctKeys]
  have hset : ∀ path, path ∈ ["tags", "data.city", "tags"] ↔ path ∈ paths := by
    simp only [paths, List.mem_cons]
    grind
  obtain ⟨hcompose, horder, htwice⟩ := redact_composes
  obtain ⟨hboth, hswapped, hleaves⟩ := hcompose d paths others hfree hd
  exact ⟨hfree, hd, hhidden, rfl, hboth, hswapped, horder d paths _ hset, hleaves.trans rfl, rfl,
    htwice hidden ["name"] hhidden⟩

end Document

end FieldGuard
