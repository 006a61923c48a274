import FieldGuard.Proofs.Document.Distinct
import FieldGuard.Proofs.Document.Leaves

/-!
# Documents in another order

* `Value.Reordered`: two values are equal up to the order of the fields in documents, and in the
  documents inside them;
* `Value.reordered_of_walk?`: so are two values if walks along the same names end at one value, or
  both at documents, or nowhere.
-/

namespace FieldGuard

namespace Value

/-- The values are equal up to the order of the fields in the documents that fields lead to. Lists
are the same, with what they hold. -/
inductive Reordered : Value → Value → Prop
  | same (value : Value) : Reordered value value
  | document {d e : Document} (keys : (Dict.keys d).Perm (Dict.keys e))
      (fields : ∀ key v w, Dict.get? d key = some v → Dict.get? e key = some w → Reordered v w) :
      Reordered (.document d) (.document e)

/-- Walks along the names end at one value, or both at documents, or nowhere. -/
def MeetAt (v w : Value) (names : List String) : Prop :=
  v.walk? names = w.walk? names ∨
    ∃ d e, v.walk? names = some (.document d) ∧ w.walk? names = some (.document e)

theorem meetAt_nil {v w : Value} :
    MeetAt v w [] ↔ v = w ∨ ∃ d e, v = .document d ∧ w = .document e := by
  simp [MeetAt]

theorem meetAt_cons {d e : Document} {key : String} {names : List String} {v w : Value}
    (hv : Dict.get? d key = some v) (hw : Dict.get? e key = some w)
    (h : MeetAt (.document d) (.document e) (key :: names)) : MeetAt v w names := by
  have hwalks : (Value.document d).walk? (key :: names) = v.walk? names ∧
      (Value.document e).walk? (key :: names) = w.walk? names := by
    simp [walk?, asDocument?, hv, hw]
  rwa [MeetAt, hwalks.1, hwalks.2] at h

/-- Documents whose fields are equal up to order are so. -/
theorem reordered_document {d e : Document} (hd : Dict.HasDistinctKeys d)
    (he : Dict.HasDistinctKeys e) (h : ∀ names, MeetAt (.document d) (.document e) names)
    (hfields : ∀ key v w, Dict.get? d key = some v → Dict.get? e key = some w →
      (∀ names, MeetAt v w names) → Reordered v w) :
    Reordered (.document d) (.document e) := by
  refine .document ?_ fun key v w hv hw =>
    hfields key v w hv hw fun names => meetAt_cons hv hw (h (key :: names))
  refine (List.perm_ext_iff_of_nodup hd he).2 fun key => ?_
  have hwalk : ∀ d : Document, (Value.document d).walk? [key] = Dict.get? d key := fun d =>
    Document.walk?_singleton d key
  rw [Dict.mem_keys_iff_get?, Dict.mem_keys_iff_get?]
  rcases h [key] with hsame | ⟨fields, others, hfields, hothers⟩
  · rw [hwalk, hwalk] at hsame
    rw [hsame]
  · rw [hwalk] at hfields hothers
    rw [hfields, hothers]
    exact ⟨fun _ => ⟨_, rfl⟩, fun _ => ⟨_, rfl⟩⟩

/-- Values in which walks along the same names end at one value, at documents or nowhere are equal
up to the order of fields. -/
theorem reordered_of_walk? {v w : Value} (hv : v.DistinctKeys) (hw : w.DistinctKeys)
    (h : ∀ names, MeetAt v w names) : Reordered v w := by
  induction v using Value.induct_document generalizing w with
  | plain v hdoc =>
    rcases meetAt_nil.1 (h []) with rfl | ⟨d, e, rfl, rfl⟩
    · exact .same v
    · cases hdoc
  | document fields ih =>
    rcases meetAt_nil.1 (h []) with rfl | ⟨d, e, heq, rfl⟩
    · exact .same _
    · cases heq
      exact reordered_document hv.1 hw.1 h fun key v w hget hget' hmeet =>
        ih _ (Dict.mem_of_get? hget) (Document.DistinctKeys.get? hv hget)
          (Document.DistinctKeys.get? hw hget') hmeet

end Value

end FieldGuard
