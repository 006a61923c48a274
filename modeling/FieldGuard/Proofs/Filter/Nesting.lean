import FieldGuard.Proofs.Document.Walking
import FieldGuard.Proofs.Filter.Reading

/-!
# Dotted and nested filters

A condition on a field inside documents can be put under the dotted path of the field, or into a
filter for the document around it, and so on outwards. Where the record has a document around the
field, both ways come to the condition on the field. Where it has none, the nested filter matches
nothing, and the dotted one is the condition on a missing value.

* `Document.nestedAt`: a value under names inside one another;
* `Filter.accepts_dotted`: a condition under a path, on the document around the field;
* `Filter.accepts_nested`: a nested filter, by induction over the names;
* `dotted_nested_agree`: the two compared.
-/

namespace FieldGuard

/-! ## The document around a field -/

namespace Document

/-- The value under field names inside one another, from the outside to the inside. -/
def nestedAt : List String → Value → Document
  | [], _ => []
  | [name], value => [(name, value)]
  | name :: rest, value => [(name, .document (nestedAt rest value))]

theorem nestedAt_cons (name : String) {rest : List String} (h : rest ≠ []) (value : Value) :
    nestedAt (name :: rest) value = [(name, .document (nestedAt rest value))] := by
  obtain ⟨next, more, rfl⟩ := List.exists_cons_of_ne_nil h
  rfl

/-- The document that the names lead to, if they lead to one. -/
def documentAt? (d : Document) (names : List String) : Option Document :=
  (walk? d names).bind Value.asDocument?

theorem documentAt?_cons (d : Document) (key : String) (rest : List String) :
    documentAt? d (key :: rest) =
      ((Dict.get? d key).bind Value.asDocument?).bind (documentAt? · rest) := by
  rw [documentAt?, walk?_cons]
  cases Dict.get? d key with
  | none => rfl
  | some inner =>
    cases hdocument : inner.isDocument with
    | true =>
      cases inner with
      | document fields => rfl
      | _ => cases hdocument
    | false =>
      have hinner : inner.asDocument? = none := by
        cases inner with
        | document fields => cases hdocument
        | _ => rfl
      -- A walk ends at once, at what is no document, or does not go on.
      cases rest with
      | nil => simp [hinner]
      | cons next more => simp [Value.walk?_of_isDocument_eq_false hdocument, hinner]

theorem documentAt?_eq_some {d parent : Document} {names : List String} :
    documentAt? d names = some parent ↔ walk? d names = some (.document parent) := by
  rw [documentAt?, Option.bind_eq_some_iff]
  constructor
  · rintro ⟨value, hwalk, hvalue⟩
    cases value with
    | document fields =>
      obtain rfl := Option.some.inj hvalue
      exact hwalk
    | _ => cases hvalue
  · exact fun h => ⟨_, h, rfl⟩

/-- The last name of a walk is looked up in the document that the others lead to. -/
theorem walk?_concat (d : Document) (front : List String) (last : String) :
    walk? d (front ++ [last]) = (documentAt? d front).bind (Dict.get? · last) := by
  rw [walk?, Value.walk?_append, documentAt?, walk?, Option.bind_assoc]
  refine congrArg _ (funext fun value => ?_)
  rw [Value.walk?]
  simp

end Document

/-! ## Filters -/

namespace Filter

open Document (nestedAt documentAt?)

/-- A joined path is an operator only if its first name is. -/
theorem isOperator_ofSegments {name : String} (hname : isOperator name = false)
    (rest : List String) : isOperator (Path.ofSegments (name :: rest)) = false := by
  cases rest with
  | nil => exact hname
  | cons next more =>
    have hpath : (Path.ofSegments (name :: next :: more)).toList =
        name.toList ++ '.' :: (Path.ofSegments (next :: more)).toList := by
      simp [Path.ofSegments, String.toList_append]
    rw [isOperator] at hname ⊢
    rw [hpath]
    cases hchars : name.toList with
    | nil => rfl
    | cons first chars => rwa [hchars] at hname

/-- The filter of one field is its condition on what is found under the name. -/
theorem accepts_ofDocument_singleton {key : String} (hkey : isOperator key = false) {value : Value}
    (hvalue : value.isTruthy = true) (record : Document) :
    (ofDocument [(key, value)]).accepts record =
      (Condition.ofValue value).accepts (Document.lookup? record key) := by
  have hconditions : conditionsOf [(key, value)] = [(key, Condition.ofValue value)] := by
    simp [conditionsOf, hkey, hvalue]
  have hcombinators : combinatorsOf [(key, value)] = [] := by
    simp [combinatorsOf, hkey]
  rw [ofDocument, accepts_assemble, hconditions, hcombinators, Filter.accepts, fieldsAccept,
    fieldsAccept, List.all_nil, Bool.and_true, Bool.and_true]

/-- A condition that is a document without operators is a filter for documents, and nothing else
passes it. -/
theorem accepts_condition_document {d : Document} (h : hasOperators d = false)
    (value : Option Value) :
    (Condition.ofValue (.document d)).accepts value =
      (value.bind Value.asDocument?).any (ofDocument d).accepts := by
  have hcondition : Condition.ofValue (.document d) = .document d (ofDocument d) := by
    rw [Condition.ofValue, if_neg (Bool.eq_false_iff.1 h)]
    rfl
  rw [hcondition]
  simp only [Condition.accepts]
  split
  · rfl
  · rename_i hother
    rw [Value.sameOrMissing_document hother]
    rcases value with _ | v
    · rfl
    · cases v with
      | document fields => exact absurd rfl (hother fields)
      | _ => rfl

section

variable {c : Value} (hc : c.isTruthy = true) {front : List String} {last : String}
  (hnames : ∀ name ∈ front ++ [last], '.' ∉ name.toList ∧ isOperator name = false)

include hc hnames

/-- A nested filter asks for a document along the names, and for a field in it. -/
theorem accepts_nested (record : Document) :
    (ofDocument (nestedAt (front ++ [last]) c)).accepts record =
      (documentAt? record front).any fun parent =>
        (Condition.ofValue c).accepts (Dict.get? parent last) := by
  induction front generalizing record with
  | nil =>
    obtain ⟨hdot, hoperator⟩ := hnames last (List.mem_singleton_self last)
    have hsingle := accepts_ofDocument_singleton hoperator hc record
    rw [Document.lookup?_of_dot_not_mem hdot] at hsingle
    exact hsingle
  | cons name rest ih =>
    obtain ⟨⟨hdot, hoperator⟩, hrest⟩ := List.forall_mem_cons.1 hnames
    have hplain : hasOperators (nestedAt (rest ++ [last]) c) = false := by
      obtain ⟨next, more, hmore⟩ : ∃ next more, rest ++ [last] = next :: more :=
        List.exists_cons_of_ne_nil (by simp)
      have hmem : next ∈ rest ++ [last] := hmore ▸ List.mem_cons_self
      have hnext : isOperator next = false := (hrest next hmem).2
      rw [hmore]
      cases more <;> simp [nestedAt, hasOperators, hnext]
    rw [List.cons_append, Document.nestedAt_cons name (by simp),
      accepts_ofDocument_singleton hoperator rfl, Document.lookup?_of_dot_not_mem hdot,
      accepts_condition_document hplain, Document.documentAt?_cons]
    cases (Dict.get? record name).bind Value.asDocument? with
    | none => rfl
    | some fields => exact ih hrest fields

/-- A condition under a path is one on the field in the document along the other names, or on a
missing value. -/
theorem accepts_dotted {record : Document} (hfree : record.DotFree) :
    (ofDocument [(Path.ofSegments (front ++ [last]), c)]).accepts record =
      (Condition.ofValue c).accepts ((documentAt? record front).bind (Dict.get? · last)) := by
  have hkey : isOperator (Path.ofSegments (front ++ [last])) = false := by
    obtain ⟨first, rest, hfirst⟩ : ∃ first rest, front ++ [last] = first :: rest :=
      List.exists_cons_of_ne_nil (by simp)
    rw [hfirst] at hnames ⊢
    exact isOperator_ofSegments (hnames first List.mem_cons_self).2 rest
  have hsegments : Path.segments (Path.ofSegments (front ++ [last])) = front ++ [last] :=
    Path.segments_ofSegments (by simp) fun name hname => (hnames name hname).1
  rw [accepts_ofDocument_singleton hkey hc, Document.lookup?_eq_walk? hfree, hsegments,
    Document.walk?_concat]

end

end Filter

/-! ## Both ways -/

/-- A condition under a dotted path and the same condition in nested filters match the same records
among those with a document around the field. Of the others the nested filter matches none, and the
dotted one matches all or none, as the condition does with a missing value. -/
theorem dotted_nested_agree {names : List String} (hlength : 2 ≤ names.length)
    (hnames : ∀ name ∈ names, '.' ∉ name.toList ∧ Filter.isOperator name = false) {c : Value}
    (hc : c.isTruthy = true) {record : Document} (hfree : record.DotFree) :
    ((∃ parent,
        Document.lookup? record (Path.ofSegments names.dropLast) = some (.document parent)) →
      (Filter.ofDocument [(Path.ofSegments names, c)]).accepts record =
        (Filter.ofDocument (Document.nestedAt names c)).accepts record) ∧
    ((∀ parent,
        Document.lookup? record (Path.ofSegments names.dropLast) ≠ some (.document parent)) →
      (Filter.ofDocument (Document.nestedAt names c)).accepts record = false ∧
        (Filter.ofDocument [(Path.ofSegments names, c)]).accepts record =
          (Condition.ofValue c).accepts none) := by
  obtain rfl | ⟨front, last, rfl⟩ := List.eq_nil_or_concat names
  · simp at hlength
  rw [List.concat_eq_append] at *
  have hfront : front ≠ [] := by
    rintro rfl
    simp at hlength
  have hsegments : Path.segments (Path.ofSegments front) = front :=
    Path.segments_ofSegments hfront fun name hname => (hnames name (List.mem_append_left _ hname)).1
  have hparent : ∀ parent, Document.lookup? record (Path.ofSegments front) =
      some (.document parent) ↔ Document.documentAt? record front = some parent := by
    intro parent
    rw [Document.lookup?_eq_walk? hfree, hsegments, Document.documentAt?_eq_some]
  simp only [List.dropLast_concat, hparent, ne_eq]
  rw [Filter.accepts_dotted hc hnames hfree, Filter.accepts_nested hc hnames]
  constructor
  · rintro ⟨parent, h⟩
    rw [h]
    rfl
  · intro h
    have hnone : Document.documentAt? record front = none :=
      Option.eq_none_iff_forall_ne_some.2 h
    rw [hnone]
    exact ⟨rfl, rfl⟩

/-- A field that must not be there: in a document without it, and where a text stands in the place
of the document around it. -/
theorem dotted_nested_agree_absent :
    let names := ["data", "", "city"]
    let c : Value := .document [("$exists", .boolean false)]
    let homeless : Document := [("data", .document [("", .document [("age", .int32 3)])])]
    let flat : Document := [("data", .document [("", .string "Lyon")])]
    let dotted := Filter.ofDocument [("data..city", c)]
    let nested := Filter.ofDocument
      [("data", .document [("", .document [("city", c)])])]
    2 ≤ names.length ∧
      (∀ name ∈ names, '.' ∉ name.toList ∧ Filter.isOperator name = false) ∧
      c.isTruthy = true ∧ homeless.DotFree ∧ flat.DotFree ∧
      Document.lookup? homeless "data." = some (.document [("age", .int32 3)]) ∧
      dotted.accepts homeless = nested.accepts homeless ∧
      nested.accepts homeless = true ∧
      (∀ parent, Document.lookup? flat "data." ≠ some (.document parent)) ∧
      nested.accepts flat = false ∧
      dotted.accepts flat = (Condition.ofValue c).accepts none ∧
      dotted.accepts flat = true := by
  intro names c homeless flat dotted nested
  have hlength : 2 ≤ names.length := by decide
  have hnames : ∀ name ∈ names, '.' ∉ name.toList ∧ Filter.isOperator name = false := by decide
  have hc : c.isTruthy = true := rfl
  have hhomeless : homeless.DotFree := by
    simp [homeless, Document.DotFree, Value.DotFree, Value.FieldsDotFree]
  have hflat : flat.DotFree := by
    simp [flat, Document.DotFree, Value.DotFree, Value.FieldsDotFree]
  have hmissing : ∀ parent, Document.lookup? flat "data." ≠ some (.document parent) :=
    fun parent h => by cases h
  have hparent : Path.ofSegments names.dropLast = "data." := by decide
  have hpath : Path.ofSegments names = "data..city" := by decide
  obtain ⟨hagree, -⟩ := dotted_nested_agree hlength hnames hc hhomeless
  obtain ⟨-, hapart⟩ := dotted_nested_agree hlength hnames hc hflat
  rw [hparent, hpath] at hagree hapart
  obtain ⟨hnested, hdotted⟩ := hapart hmissing
  exact ⟨hlength, hnames, hc, hhomeless, hflat, rfl, hagree ⟨_, rfl⟩, by decide, hmissing, hnested,
    hdotted, by decide⟩

end FieldGuard
