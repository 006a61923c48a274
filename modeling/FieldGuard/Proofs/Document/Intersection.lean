import FieldGuard.Proofs.Document.CommonFields
import FieldGuard.Proofs.Document.Reordering

/-!
# Intersections

What several documents have in common, followed name by name: as long as all hold documents there is
a document; where one holds something else, the value of the last document is taken whole, with
undefined values inside it.

* `Document.exists_walk?_commonFields_iff`: it leads where all documents define a value, and where
  the last one leads inside a value that is taken whole;
* `Document.walk?_commonFields_eq_last`: but where all hold documents, the value is that of the last
  document;
* `Document.reordered_commonFields`: the order of the documents before the last one shows in the
  order of fields only;
* `Document.commonFields_replicate`: copies of a document without undefined values have all of it in
  common;
* `Document.intersect_exact`: all of this for an intersection.
-/

namespace FieldGuard

namespace Document

open Value (commonFields common defined?)

/-! ## One step into the documents -/

/-- Every document holds a value at the place, other than the undefined one. -/
def AllDefine (records : List Document) (names : List String) : Prop :=
  ∀ d ∈ records, ∃ value, walk? d names = some value ∧ value.isUndefined = false

/-- Every document holds a document at the place. -/
def AllHoldDocuments (records : List Document) (names : List String) : Prop :=
  ∀ d ∈ records, ∃ fields, walk? d names = some (.document fields)

/-- The value under a key, the undefined one if there is none. -/
def inside (key : String) (d : Document) : Value :=
  (Dict.get? d key).getD .undefined

variable {first last : Document} {others records : List Document} {key : String}
  {names : List String}

theorem allDefine_nil (records : List Document) : AllDefine records [] :=
  fun d _ => ⟨.document d, rfl, rfl⟩

theorem allHoldDocuments_nil (records : List Document) : AllHoldDocuments records [] :=
  fun d _ => ⟨d, rfl⟩

theorem AllHoldDocuments.allDefine (h : AllHoldDocuments records names) :
    AllDefine records names := fun d hd =>
  let ⟨fields, hfields⟩ := h d hd
  ⟨.document fields, hfields, rfl⟩

theorem walk?_cons_of_holds {d : Document} {fields : Document}
    (h : walk? d [key] = some (.document fields)) (names : List String) :
    walk? d (key :: names) = walk? (child d key) names := by
  rw [walk?_singleton] at h
  rw [walk?_cons, h, child_of_get? h]
  rfl

/-- Only a document is walked through. -/
theorem holds_of_walk?_cons {d : Document} (hne : names ≠ []) {value : Value}
    (h : walk? d (key :: names) = some value) :
    ∃ fields, walk? d [key] = some (.document fields) := by
  rw [walk?_cons, Option.bind_eq_some_iff] at h
  obtain ⟨inner, hget, hwalk⟩ := h
  obtain ⟨fields, rfl⟩ := Value.exists_document_of_walk? hne hwalk
  exact ⟨fields, (walk?_singleton d key).trans hget⟩

theorem AllDefine.holdDocuments (h : AllDefine records (key :: names)) (hne : names ≠ []) :
    AllHoldDocuments records [key] := fun d hd =>
  let ⟨_, hvalue, _⟩ := h d hd
  holds_of_walk?_cons hne hvalue

theorem AllHoldDocuments.outer (h : AllHoldDocuments records (key :: names)) :
    AllHoldDocuments records [key] := by
  by_cases hne : names = []
  · rwa [hne] at h
  · exact h.allDefine.holdDocuments hne

theorem allDefine_children (h : AllHoldDocuments records [key]) :
    AllDefine (records.map (child · key)) names ↔ AllDefine records (key :: names) := by
  rw [AllDefine, List.forall_mem_map]
  refine forall₂_congr fun d hd => ?_
  obtain ⟨fields, hfields⟩ := h d hd
  rw [walk?_cons_of_holds hfields]

theorem allHoldDocuments_children (h : AllHoldDocuments records [key]) :
    AllHoldDocuments (records.map (child · key)) names ↔
      AllHoldDocuments records (key :: names) := by
  rw [AllHoldDocuments, List.forall_mem_map]
  refine forall₂_congr fun d hd => ?_
  obtain ⟨fields, hfields⟩ := h d hd
  rw [walk?_cons_of_holds hfields]

/-! ## What all have in common under a key -/

theorem inside_eq_document_iff {d fields : Document} :
    inside key d = .document fields ↔ walk? d [key] = some (.document fields) := by
  rw [walk?_singleton, inside]
  cases Dict.get? d key <;> simp

theorem defined?_eq_inside {d : Document}
    (h : ∃ value, walk? d [key] = some value ∧ value.isUndefined = false) :
    defined? key d = some (inside key d) := by
  obtain ⟨value, hwalk, hvalue⟩ := h
  rw [walk?_singleton] at hwalk
  rw [Value.defined?_eq_some.2 ⟨hwalk, hvalue⟩, inside, hwalk, Option.getD_some]

theorem defined?_eq_none {d : Document}
    (h : ¬ ∃ value, walk? d [key] = some value ∧ value.isUndefined = false) :
    defined? key d = none := by
  refine Option.eq_none_iff_forall_ne_some.2 fun value hvalue => h ?_
  obtain ⟨hget, hdefined⟩ := Value.defined?_eq_some.1 hvalue
  exact ⟨value, (walk?_singleton d key).trans hget, hdefined⟩

theorem mapM_defined? (h : AllDefine records [key]) :
    records.mapM (defined? key) = some (records.map (inside key)) :=
  mapM_eq_some_map fun d hd => defined?_eq_inside (h d hd)

theorem mapM_defined?_eq_none (h : ¬ AllDefine records [key]) :
    records.mapM (defined? key) = none := by
  unfold AllDefine at h
  push Not at h
  obtain ⟨d, hd, h⟩ := h
  exact mapM_eq_none hd (defined?_eq_none fun ⟨value, hwalk, hvalue⟩ =>
    h value hwalk hvalue)

theorem mapM_asDocument? (h : AllHoldDocuments records [key]) :
    (records.map (inside key)).mapM Value.asDocument? = some (records.map (child · key)) := by
  rw [List.mapM_map]
  refine mapM_eq_some_map fun d hd => ?_
  obtain ⟨fields, hfields⟩ := h d hd
  rw [Function.comp_apply, inside_eq_document_iff.2 hfields,
    child_of_get? ((walk?_singleton d key).symm.trans hfields)]
  rfl

theorem mapM_asDocument?_eq_none (h : ¬ AllHoldDocuments records [key]) :
    (records.map (inside key)).mapM Value.asDocument? = none := by
  unfold AllHoldDocuments at h
  push Not at h
  obtain ⟨d, hd, h⟩ := h
  rw [List.mapM_map]
  refine mapM_eq_none hd ?_
  rw [Function.comp_apply]
  cases hvalue : inside key d with
  | document fields => exact absurd (inside_eq_document_iff.1 hvalue) (h fields)
  | _ => rfl

section

variable (hd : Dict.HasDistinctKeys first)

include hd

theorem get?_commonFields_of_allDefine (h : AllDefine (first :: others) [key]) :
    Dict.get? (commonFields others first) key =
      some (common (others.map (inside key)) (inside key first)) := by
  obtain ⟨hfirst, hothers⟩ := List.forall_mem_cons.1 h
  rw [Value.get?_commonFields hd, defined?_eq_inside hfirst, mapM_defined? hothers]
  rfl

/-- Under a key that some document does not define there is nothing. -/
theorem walk?_commonFields_cons_eq_none (h : ¬ AllDefine (first :: others) [key])
    (names : List String) : walk? (commonFields others first) (key :: names) = none := by
  rw [walk?_cons, Value.get?_commonFields hd]
  by_cases hfirst : ∃ value, walk? first [key] = some value ∧ value.isUndefined = false
  · have hothers : ¬ AllDefine others [key] := fun ho => h (List.forall_mem_cons.2 ⟨hfirst, ho⟩)
    rw [defined?_eq_inside hfirst, mapM_defined?_eq_none hothers]
    rfl
  · rw [defined?_eq_none hfirst]
    rfl

/-- Under a key where all hold documents there is what those have in common. -/
theorem walk?_commonFields_cons_of_documents (h : AllHoldDocuments (first :: others) [key])
    (names : List String) : walk? (commonFields others first) (key :: names) =
      walk? (commonFields (others.map (child · key)) (child first key)) names := by
  obtain ⟨⟨fields, hfields⟩, hothers⟩ := List.forall_mem_cons.1 h
  rw [walk?_cons, get?_commonFields_of_allDefine hd h.allDefine, inside_eq_document_iff.2 hfields,
    Value.common_documents (mapM_asDocument? hothers),
    child_of_get? ((walk?_singleton first key).symm.trans hfields)]
  rfl

/-- Under a key that all define, though not all as documents, the last value is taken whole. -/
theorem walk?_commonFields_cons_of_last (hdefine : AllDefine (first :: others) [key])
    (hnot : ¬ AllHoldDocuments (first :: others) [key]) (hlast : others.getLast? = some last)
    (names : List String) :
    walk? (commonFields others first) (key :: names) = walk? last (key :: names) := by
  have hplain : (inside key first).isDocument = false ∨
      (others.map (inside key)).mapM Value.asDocument? = none := by
    by_cases hothers : AllHoldDocuments others [key]
    · refine .inl ?_
      cases hvalue : inside key first with
      | document fields =>
        exact absurd (List.forall_mem_cons.2 ⟨⟨fields, inside_eq_document_iff.1 hvalue⟩, hothers⟩)
          hnot
      | _ => rfl
    · exact .inr (mapM_asDocument?_eq_none hothers)
  have hmem : last ∈ first :: others := List.mem_cons_of_mem _ (List.mem_of_getLast? hlast)
  obtain ⟨value, hvalue, -⟩ := hdefine last hmem
  rw [walk?_singleton] at hvalue
  rw [walk?_cons, walk?_cons, get?_commonFields_of_allDefine hd hdefine,
    Value.common_eq_getLastD hplain, List.getLastD_eq_getLast?, List.getLast?_map, hlast, hvalue,
    Option.map_some, Option.getD_some, inside, hvalue, Option.getD_some]

end

/-! ## Walks through what documents have in common -/

theorem getLast?_children (hlast : others.getLast? = some last) (key : String) :
    (others.map (child · key)).getLast? = some (child last key) := by
  rw [List.getLast?_map, hlast, Option.map_some]

/-- Where all hold documents, so does what they have in common. -/
theorem walk?_commonFields_of_allHoldDocuments (hd : DistinctKeys first)
    (h : AllHoldDocuments (first :: others) names) :
    ∃ fields, walk? (commonFields others first) names = some (.document fields) := by
  induction names generalizing first others with
  | nil => exact ⟨_, rfl⟩
  | cons key names ih =>
    rw [walk?_commonFields_cons_of_documents hd.keys h.outer]
    exact ih (distinctKeys_child hd key) ((allHoldDocuments_children h.outer).2 h)

/-- From a place on that all define, though not all as documents, the value of the last document is
taken whole. -/
theorem walk?_commonFields_append (hd : DistinctKeys first) (hlast : others.getLast? = some last)
    {outer : List String} (hdefine : AllDefine (first :: others) outer)
    (hnot : ¬ AllHoldDocuments (first :: others) outer) (inner : List String) :
    walk? (commonFields others first) (outer ++ inner) = walk? last (outer ++ inner) := by
  induction outer generalizing first others last with
  | nil => exact absurd (allHoldDocuments_nil _) hnot
  | cons key outer ih =>
    rw [List.cons_append]
    by_cases houter : outer = []
    · subst houter
      exact walk?_commonFields_cons_of_last hd.keys hdefine hnot hlast _
    · have hdocuments := hdefine.holdDocuments houter
      have hmem : last ∈ first :: others := List.mem_cons_of_mem _ (List.mem_of_getLast? hlast)
      obtain ⟨fields, hfields⟩ := hdocuments last hmem
      rw [walk?_commonFields_cons_of_documents hd.keys hdocuments, walk?_cons_of_holds hfields]
      exact ih (distinctKeys_child hd key) (getLast?_children hlast key)
        ((allDefine_children hdocuments).2 hdefine)
        fun h => hnot ((allHoldDocuments_children hdocuments).1 h)

/-- The names lead into a value that is taken whole: an outer place is one that all define, though
not all as documents. -/
def LeadInside (records : List Document) (names : List String) : Prop :=
  ∃ outer, outer <+: names ∧ outer ≠ names ∧ AllDefine records outer ∧
    ¬ AllHoldDocuments records outer

/-- What documents have in common leads no further than all of them lead, or than into a value taken
whole. -/
theorem allDefine_or_leadInside (hd : DistinctKeys first) {value : Value}
    (h : walk? (commonFields others first) names = some value) :
    AllDefine (first :: others) names ∨ LeadInside (first :: others) names := by
  induction names generalizing first others with
  | nil => exact .inl (allDefine_nil _)
  | cons key names ih =>
    by_cases hdefine : AllDefine (first :: others) [key]
    · by_cases hdocuments : AllHoldDocuments (first :: others) [key]
      · rw [walk?_commonFields_cons_of_documents hd.keys hdocuments] at h
        rcases ih (distinctKeys_child hd key) h with hall | ⟨outer, hstart, hproper, hall, hnot⟩
        · exact .inl ((allDefine_children hdocuments).1 hall)
        · refine .inr ⟨key :: outer, List.cons_prefix_cons.2 ⟨rfl, hstart⟩,
            fun e => hproper (List.cons.inj e).2, (allDefine_children hdocuments).1 hall, ?_⟩
          exact fun h => hnot ((allHoldDocuments_children hdocuments).2 h)
      · by_cases hnames : names = []
        · rw [hnames]
          exact .inl hdefine
        · exact .inr ⟨[key], List.prefix_append [key] names,
            fun e => hnames (List.cons.inj e).2.symm, hdefine, hdocuments⟩
    · rw [walk?_commonFields_cons_eq_none hd.keys hdefine] at h
      cases h

/-- Where all define a value, though not all a document, and inside such a value, the last document
decides. -/
theorem walk?_commonFields_eq_last (hd : DistinctKeys first) (hlast : others.getLast? = some last)
    (hnot : ¬ AllHoldDocuments (first :: others) names)
    (h : AllDefine (first :: others) names ∨ LeadInside (first :: others) names) :
    walk? (commonFields others first) names = walk? last names := by
  rcases h with hdefine | ⟨outer, ⟨inner, rfl⟩, -, houter, hnotOuter⟩
  · have hwhole := walk?_commonFields_append hd hlast hdefine hnot []
    rwa [List.append_nil] at hwhole
  · exact walk?_commonFields_append hd hlast houter hnotOuter inner

/-- What documents have in common leads where all define a value, and where the last one leads
inside a value taken whole. -/
theorem exists_walk?_commonFields_iff (hd : DistinctKeys first)
    (hlast : others.getLast? = some last) :
    (∃ value, walk? (commonFields others first) names = some value) ↔
      AllDefine (first :: others) names ∨
        LeadInside (first :: others) names ∧ ∃ value, walk? last names = some value := by
  by_cases hdocuments : AllHoldDocuments (first :: others) names
  · obtain ⟨fields, hfields⟩ := walk?_commonFields_of_allHoldDocuments hd hdocuments
    exact ⟨fun _ => .inl hdocuments.allDefine, fun _ => ⟨_, hfields⟩⟩
  constructor
  · rintro ⟨value, hvalue⟩
    rcases allDefine_or_leadInside hd hvalue with hdefine | hinside
    · exact .inl hdefine
    · rw [walk?_commonFields_eq_last hd hlast hdocuments (.inr hinside)] at hvalue
      exact .inr ⟨hinside, value, hvalue⟩
  · rintro (hdefine | ⟨hinside, hvalue⟩)
    · obtain ⟨value, hvalue, -⟩ :=
        hdefine last (List.mem_cons_of_mem _ (List.mem_of_getLast? hlast))
      exact ⟨value, (walk?_commonFields_eq_last hd hlast hdocuments (.inl hdefine)).trans hvalue⟩
    · rwa [walk?_commonFields_eq_last hd hlast hdocuments (.inr hinside)]

/-! ## The order of the documents -/

section

variable (hperm : records.Perm others)

include hperm

theorem allDefine_perm : AllDefine records names ↔ AllDefine others names :=
  forall_congr' fun d => by rw [hperm.mem_iff]

theorem allHoldDocuments_perm : AllHoldDocuments records names ↔ AllHoldDocuments others names :=
  forall_congr' fun d => by rw [hperm.mem_iff]

theorem leadInside_perm : LeadInside records names ↔ LeadInside others names := by
  simp only [LeadInside, allDefine_perm hperm, allHoldDocuments_perm hperm]

end

/-- In another order, but for the last one, documents have the same in common, up to the order of
fields. -/
theorem reordered_commonFields {first' : Document} {others' : List Document}
    (hd : ∀ d ∈ first :: others, DistinctKeys d) (hlast : others.getLast? = some last)
    (hlast' : others'.getLast? = some last) (hperm : (first' :: others').Perm (first :: others)) :
    Value.Reordered (.document (commonFields others first))
      (.document (commonFields others' first')) := by
  have hd' : ∀ d ∈ first' :: others', DistinctKeys d := fun d hmem => hd d (hperm.subset hmem)
  obtain ⟨hfirst, hothers⟩ := List.forall_mem_cons.1 hd
  obtain ⟨hfirst', hothers'⟩ := List.forall_mem_cons.1 hd'
  refine Value.reordered_of_walk? (distinctKeys_commonFields hfirst hothers)
    (distinctKeys_commonFields hfirst' hothers') fun names => ?_
  by_cases hdocuments : AllHoldDocuments (first :: others) names
  · obtain ⟨fields, hfields⟩ := walk?_commonFields_of_allHoldDocuments hfirst hdocuments
    obtain ⟨fields', hfields'⟩ := walk?_commonFields_of_allHoldDocuments hfirst'
      ((allHoldDocuments_perm hperm).2 hdocuments)
    exact .inr ⟨fields, fields', hfields, hfields'⟩
  have hdocuments' := fun h => hdocuments ((allHoldDocuments_perm hperm).1 h)
  refine .inl ?_
  by_cases h : AllDefine (first :: others) names ∨ LeadInside (first :: others) names
  · have h' : AllDefine (first' :: others') names ∨ LeadInside (first' :: others') names := by
      rwa [allDefine_perm hperm, leadInside_perm hperm]
    have heq := walk?_commonFields_eq_last hfirst hlast hdocuments h
    exact heq.trans (walk?_commonFields_eq_last hfirst' hlast' hdocuments' h').symm
  · have hnone : ∀ value, walk? (commonFields others first) names ≠ some value :=
      fun value hvalue => h (allDefine_or_leadInside hfirst hvalue)
    have hnone' : ∀ value, walk? (commonFields others' first') names ≠ some value :=
      fun value hvalue => h (by
        rw [← allDefine_perm hperm, ← leadInside_perm hperm]
        exact allDefine_or_leadInside hfirst' hvalue)
    exact (Option.eq_none_iff_forall_ne_some.2 hnone).trans
      (Option.eq_none_iff_forall_ne_some.2 hnone').symm

/-! ## Copies of one document -/

/-- Where no branch ends at an undefined value, no walk does. -/
theorem walk?_ne_undefined {d : Document} (h : ∀ branch ∈ branches d, branch.2 ≠ .undefined)
    (names : List String) : walk? d names ≠ some .undefined := by
  by_cases hne : names = []
  · rw [hne]
    exact fun hwalk => nomatch hwalk
  · exact walk?_ne_of_branches hne rfl h

theorem commonFields_eq_self {d : Document}
    (h : ∀ field ∈ d, field.2.isUndefined = false ∧ ∃ values,
      others.mapM (defined? field.1) = some values ∧ common values field.2 = field.2) :
    commonFields others d = d := by
  induction d with
  | nil => rfl
  | cons field rest ih =>
    obtain ⟨⟨hdefined, values, hvalues, hcommon⟩, hrest⟩ := List.forall_mem_cons.1 h
    obtain ⟨key, value⟩ := field
    rw [Value.commonFields_cons_some hdefined hvalues, hcommon, ih hrest]

/-- A document has all its fields in common with copies of it, if its values have. -/
theorem commonFields_replicate_of_forall {d : Document} (hd : DistinctKeys d)
    (hdefined : ∀ names, walk? d names ≠ some .undefined) (n : Nat)
    (h : ∀ field ∈ d, (∀ names, field.2.walk? names ≠ some .undefined) →
      common (List.replicate n field.2) field.2 = field.2) :
    commonFields (List.replicate n d) d = d := by
  refine commonFields_eq_self fun field hfield => ?_
  have hget := (Dict.get?_eq_some_iff_mem hd.keys).2 hfield
  have hinner : ∀ names, field.2.walk? names ≠ some .undefined := fun names hwalk =>
    hdefined (field.1 :: names) (by rw [walk?_cons, hget, Option.bind_some, hwalk])
  have hvalue : field.2.isUndefined = false := by
    cases hundefined : field.2 with
    | undefined => exact absurd (congrArg some hundefined) (hinner [])
    | _ => rfl
  exact ⟨hvalue, _, mapM_replicate (Value.defined?_eq_some.2 ⟨hget, hvalue⟩) n,
    h field hfield hinner⟩

theorem common_replicate {value : Value} (hd : value.DistinctKeys)
    (hdefined : ∀ names, value.walk? names ≠ some .undefined) (n : Nat) :
    common (List.replicate n value) value = value := by
  have hdocument : ∀ fields : Document, (List.replicate n (.document fields)).mapM
      Value.asDocument? = some (List.replicate n fields) := fun fields => by
    have hfields : Value.asDocument? (.document fields) = some fields := rfl
    exact mapM_replicate hfields n
  induction value using Value.induct_document with
  | plain value hdoc =>
    rw [Value.common_eq_getLastD (.inl hdoc)]
    rcases List.mem_cons.1 (List.getLastD_mem_cons (l := List.replicate n value) (a := value)) with
      h | h
    · exact h
    · exact List.eq_of_mem_replicate h
  | document fields ih =>
    rw [Value.common_documents (hdocument _), commonFields_replicate_of_forall hd hdefined n]
    exact fun field hfield hinner => ih field hfield (DistinctKeys.value hd hfield) hinner

theorem commonFields_replicate {d : Document} (hd : DistinctKeys d)
    (hdefined : ∀ names, walk? d names ≠ some .undefined) (n : Nat) :
    commonFields (List.replicate n d) d = d :=
  commonFields_replicate_of_forall hd hdefined n fun _ hfield hinner =>
    common_replicate (hd.value hfield) hinner n

/-! ## Intersections -/

theorem intersect_cons_concat (first : Document) (middle : List Document) (last : Document) :
    intersect (first :: middle ++ [last]) = some (commonFields (middle ++ [last]) first) := by
  cases middle <;> rfl

theorem intersect_replicate {d : Document} (hd : DistinctKeys d)
    (hdefined : ∀ names, walk? d names ≠ some .undefined) {copies : Nat} (h : 0 < copies) :
    intersect (List.replicate copies d) = some d := by
  obtain ⟨others, rfl⟩ := Nat.exists_eq_add_of_le' h
  cases others with
  | zero => rfl
  | succ n => exact congrArg some (commonFields_replicate hd hdefined (n + 1))

/-- Documents in another order, but for the last one, have an intersection that is the same up to
the order of fields. -/
theorem reordered_intersect {front front' : List Document} {result : Document}
    (hd : ∀ d ∈ front ++ [last], DistinctKeys d) (hperm : front'.Perm front) (hne : front ≠ [])
    (h : intersect (front ++ [last]) = some result) :
    ∃ result', intersect (front' ++ [last]) = some result' ∧
      Value.Reordered (.document result) (.document result') := by
  have hne' : front' ≠ [] := fun hnil => hne (hnil ▸ hperm.symm).eq_nil
  obtain ⟨first, middle, rfl⟩ := List.exists_cons_of_ne_nil hne
  obtain ⟨first', middle', rfl⟩ := List.exists_cons_of_ne_nil hne'
  rw [intersect_cons_concat] at h
  cases h
  exact ⟨_, intersect_cons_concat first' middle' last, reordered_commonFields hd
    List.getLast?_concat List.getLast?_concat (hperm.append_right [last])⟩

/-- The intersection of two or more documents holds a value where all of them define one, and where
the last one holds a value inside of what all define, though not all as a document. It is a document
where all hold documents, elsewhere the value of the last document. The order of the documents
before the last one shows in the order of fields only, and copies of a document without undefined
values have this document as their intersection. -/
theorem intersect_exact :
    (∀ (front : List Document) (last : Document), front ≠ [] →
      (∀ d ∈ front ++ [last], DistinctKeys d) → ∃ result,
        intersect (front ++ [last]) = some result ∧
        (∀ names, ((∃ value, walk? result names = some value) ↔
            AllDefine (front ++ [last]) names ∨
              LeadInside (front ++ [last]) names ∧ ∃ value, walk? last names = some value) ∧
          ∀ value, walk? result names = some value →
            (AllHoldDocuments (front ++ [last]) names → value.isDocument = true) ∧
            (¬ AllHoldDocuments (front ++ [last]) names → walk? last names = some value)) ∧
        ∀ front' : List Document, front'.Perm front → ∃ result',
          intersect (front' ++ [last]) = some result' ∧
            Value.Reordered (.document result) (.document result')) ∧
    ∀ (d : Document) (copies : Nat), 0 < copies → DistinctKeys d →
      (∀ names, walk? d names ≠ some .undefined) →
        intersect (List.replicate copies d) = some d := by
  refine ⟨fun front last hne hd => ?_, fun d copies hcopies hd hdefined =>
    intersect_replicate hd hdefined hcopies⟩
  obtain ⟨first, middle, rfl⟩ := List.exists_cons_of_ne_nil hne
  have hresult := intersect_cons_concat first middle last
  have hfirst : DistinctKeys first := hd first List.mem_cons_self
  have hlast : (middle ++ [last]).getLast? = some last := List.getLast?_concat
  refine ⟨_, hresult, fun names => ⟨exists_walk?_commonFields_iff hfirst hlast, ?_⟩,
    fun front' hperm => reordered_intersect hd hperm hne hresult⟩
  intro value hvalue
  constructor
  · intro hdocuments
    obtain ⟨fields, hfields⟩ := walk?_commonFields_of_allHoldDocuments hfirst hdocuments
    cases hvalue.symm.trans hfields
    rfl
  · intro hdocuments
    have hplace := allDefine_or_leadInside hfirst hvalue
    rwa [← walk?_commonFields_eq_last hfirst hlast hdocuments hplace]

/-- Three records: all hold a document under one name, all hold texts under another, one does not
define a third, and one holds a number where the last one has an undefined value in a document. -/
theorem intersect_exact_records :
    let a : Document := [("data", .document [("x", .int32 1), ("y", .int32 2)]),
      ("note", .string "a"), ("gone", .undefined), ("whole", .int32 0)]
    let b : Document := [("whole", .document []), ("data", .document [("x", .null)]),
      ("gone", .null), ("note", .string "b")]
    let c : Document := [("note", .string "c"), ("data", .document [("x", .int32 3)]),
      ("gone", .null), ("whole", .document [("k", .undefined)])]
    let result : Document := [("data", .document [("x", .int32 3)]), ("note", .string "c"),
      ("whole", .document [("k", .undefined)])]
    let swapped : Document := [("whole", .document [("k", .undefined)]),
      ("data", .document [("x", .int32 3)]), ("note", .string "c")]
    (∀ d ∈ [a, b] ++ [c], DistinctKeys d) ∧
      intersect [a, b, c] = some result ∧ intersect [b, a, c] = some swapped ∧
      Value.Reordered (.document result) (.document swapped) ∧
      LeadInside [a, b, c] ["whole", "k"] ∧ ¬ AllDefine [a, b, c] ["gone"] ∧
      (∀ names, walk? b names ≠ some .undefined) ∧ intersect [b, b, b] = some b := by
  intro a b c result swapped
  have hd : ∀ d ∈ [a, b] ++ [c], DistinctKeys d := by
    simp [a, b, c, DistinctKeys, Value.DistinctKeys, Value.FieldsDistinctKeys]
  have hdefined : ∀ names, walk? b names ≠ some .undefined := walk?_ne_undefined <| by
    simp [b, branches, Value.fieldBranches, Value.branches, Value.under]
  obtain ⟨hrecords, hcopies⟩ := intersect_exact
  obtain ⟨result', hresult, hwalks, horder⟩ := hrecords [a, b] c (List.cons_ne_nil _ _) hd
  have hfirst : intersect [a, b, c] = some result := rfl
  have hsecond : intersect [b, a, c] = some swapped := rfl
  obtain ⟨swapped', hswapped, hreordered⟩ := horder [b, a] (List.Perm.swap a b [])
  obtain rfl : result = result' := Option.some.inj (hfirst.symm.trans hresult)
  obtain rfl : swapped = swapped' := Option.some.inj (hsecond.symm.trans hswapped)
  refine ⟨hd, hresult, hswapped, hreordered, ?_, fun h => ?_, hdefined,
    hcopies b 3 (by decide) (hd b (by simp)) hdefined⟩
  · rcases (hwalks ["whole", "k"]).1.1 ⟨.undefined, rfl⟩ with h | ⟨h, -⟩
    · obtain ⟨_, hvalue, -⟩ := h a (by simp)
      cases hvalue
    · exact h
  · obtain ⟨_, hvalue⟩ := (hwalks ["gone"]).1.2 (.inl h)
    cases hvalue

end Document

end FieldGuard
