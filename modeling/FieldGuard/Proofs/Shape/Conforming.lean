import FieldGuard.Proofs.Shape.Coverage

/-!
# What a shape accepts

Which values a shape is for is said without checking anything (`Shape.Conforms`), going down the
shape and the value together. A check succeeds exactly for these values, and otherwise reports a
fault at the place checked or inside it.

* `Shape.check_eq_ok_iff`: what a check accepts, by induction over the shape;
* `Shape.ReportsFault`, `Shape.check_reports`: what it answers otherwise;
* `Shape.validate_accepts_iff`: the records that a shape accepts.
-/

namespace FieldGuard

namespace Shape

open FieldGuard.Path (join)

/-- The value, if it is there, is one of those that the shape is for. -/
inductive Conforms : Shape → Option Value → Prop
  | missing (inner : Shape) : Conforms (.optional inner) none
  | null (inner : Shape) : Conforms (.optional inner) (some .null)
  | optional {inner : Shape} {value : Option Value} (h : Conforms inner value) :
      Conforms (.optional inner) value
  | any (value : Value) : Conforms .any (some value)
  | boolean (b : Bool) : Conforms .boolean (some (.boolean b))
  | int32 (n : Int32) : Conforms .number (some (.int32 n))
  | int64 (n : Int64) : Conforms .number (some (.int64 n))
  | double (x : Float) : Conforms .number (some (.double x))
  | string (text : String) : Conforms .string (some (.string text))
  | dateTime (millis : Int64) : Conforms .dateTime (some (.dateTime millis))
  | array {item : Shape} {items : List Value} (h : ∀ value ∈ items, Conforms item (some value)) :
      Conforms (.array item) (some (.array items))
  /-- Every declared field conforms, one that is not there as a missing value, and every field is
  declared. -/
  | object {fields : List (String × Shape)} {d : Document}
      (h : ∀ field ∈ fields, Conforms field.2 (Dict.get? d field.1))
      (declared : ∀ key ∈ Dict.keys d, key ∈ Dict.keys fields) :
      Conforms (.object fields) (some (.document d))

/-! ## What a check accepts -/

section

variable {container : Option String} {fields : List (String × Shape)} {d : Document}

theorem checkItems_eq_ok {check : Value → String → Except Error Unit} {accepted : Value → Prop}
    (h : ∀ value path, check value path = .ok () ↔ accepted value) (path : String) (index : Nat)
    (items : List Value) :
    checkItems check path index items = .ok () ↔ ∀ value ∈ items, accepted value := by
  induction items generalizing index with
  | nil => simp [checkItems]
  | cons item rest ih =>
    rw [checkItems, bind_eq_ok, List.forall_mem_cons, ← ih (index + 1),
      ← h item (itemPath path index)]
    exact ⟨fun ⟨_, hitem, hrest⟩ => ⟨hitem, hrest⟩, fun ⟨hitem, hrest⟩ => ⟨(), hitem, hrest⟩⟩

/-- A document passes if each declared field does and every field is declared. -/
theorem checkDocument_eq_ok (container : Option String) :
    (do checkFields fields d container
        checkDeclared fields d container : Except Error Unit) = .ok () ↔
      (∀ field ∈ fields,
        check field.2 (Dict.get? d field.1) (join container field.1) = .ok ()) ∧
      ∀ key ∈ Dict.keys d, key ∈ Dict.keys fields := by
  have hdeclared : checkDeclared fields d container = .ok () ↔
      ∀ key ∈ Dict.keys d, key ∈ Dict.keys fields := by
    rw [checkDeclared_eq_ok]
    refine forall₂_congr fun key _ => ?_
    rw [Dict.contains, Option.isSome_iff_exists, Dict.mem_keys_iff_get?]
  rw [bind_eq_ok, ← hdeclared, ← checkFields_eq_ok]
  exact ⟨fun ⟨_, h⟩ => h, fun h => ⟨(), h⟩⟩

end

/-- A check succeeds exactly for the values that conform. -/
theorem check_eq_ok_iff (shape : Shape) (value : Option Value) (path : String) :
    check shape value path = .ok () ↔ shape.Conforms value := by
  induction shape using induct_items generalizing value path with
  | plain shape hobject hoptional harray =>
    cases shape with
    | object fields => exact absurd rfl (hobject fields)
    | optional inner => exact absurd rfl (hoptional inner)
    | array item => exact absurd rfl (harray item)
    | any =>
      cases value with
      | none => exact iff_of_false (fun h => nomatch h) (fun h => nomatch h)
      | some v => exact iff_of_true rfl (.any v)
    | boolean | number | string | dateTime =>
      constructor
      · intro h
        rcases value with _ | v
        · cases h
        · cases v <;> first | constructor | cases h
      · intro h
        cases h <;> rfl
  | array item ih =>
    have hitems : ∀ items, check (.array item) (some (.array items)) path = .ok () ↔
        ∀ value ∈ items, item.Conforms (some value) := fun items =>
      checkItems_eq_ok (fun value path => ih (some value) path) path 0 items
    constructor
    · intro h
      rcases value with _ | v
      · cases h
      · cases v with
        | array items => exact .array ((hitems items).1 h)
        | _ => cases h
    · rintro ⟨⟩
      exact (hitems _).2 ‹_›
  | optional inner ih =>
    constructor
    · intro h
      rcases value with _ | v
      · exact .missing inner
      · cases v with
        | null => exact .null inner
        | _ => exact .optional ((ih _ path).1 h)
    · intro h
      cases h with
      | missing => rfl
      | null => rfl
      | optional h =>
        have hinner := (ih value path).2 h
        rcases value with _ | v
        · rfl
        · cases v with
          | null => rfl
          | _ => exact hinner
  | object fields ih =>
    have hdocument : ∀ d, check (.object fields) (some (.document d)) path = .ok () ↔
        (∀ field ∈ fields, field.2.Conforms (Dict.get? d field.1)) ∧
          ∀ key ∈ Dict.keys d, key ∈ Dict.keys fields := by
      intro d
      refine (checkDocument_eq_ok (some path)).trans (and_congr_left' ?_)
      exact forall₂_congr fun field hfield => ih field hfield _ _
    constructor
    · intro h
      rcases value with _ | v
      · cases h
      · cases v with
        | document d =>
          obtain ⟨hfields, hdeclared⟩ := (hdocument d).1 h
          exact .object hfields hdeclared
        | _ => cases h
    · rintro ⟨⟩
      exact (hdocument _).2 ⟨‹_›, ‹_›⟩

/-! ## What a check reports -/

/-- The error reports a fault at a place whose path starts with the one given. -/
def ReportsFault (path : List Char) (e : Error) : Prop :=
  ∃ (fault : Fault) (place : String), e = fault.toError place ∧ path <+: place.toList

theorem reportsFault_toError (fault : Fault) (path : String) :
    ReportsFault path.toList (fault.toError path) :=
  ⟨fault, path, rfl, List.prefix_rfl⟩

theorem ReportsFault.mono {outer path : List Char} {e : Error} (h : ReportsFault path e)
    (hstart : outer <+: path) : ReportsFault outer e := by
  obtain ⟨fault, place, rfl, hplace⟩ := h
  exact ⟨fault, place, rfl, hstart.trans hplace⟩

/-- The characters in front of the paths of a container's fields. -/
def frontOf (container : Option String) : List Char :=
  (container.getD "").toList

theorem frontOf_prefix_join (container : Option String) (key : String) :
    frontOf container <+: (join container key).toList := by
  cases container with
  | none => exact List.nil_prefix
  | some path =>
    rw [join, String.append_assoc, String.toList_append]
    exact List.prefix_append _ _

theorem prefix_itemPath (path : String) (index : Nat) :
    path.toList <+: (itemPath path index).toList := by
  rw [itemPath, String.append_assoc, String.append_assoc, String.toList_append]
  exact List.prefix_append _ _

section

variable {container : Option String} {fields : List (String × Shape)} {d : Document} {e : Error}

theorem checkItems_reports {check : Value → String → Except Error Unit}
    (h : ∀ value path e, check value path = .error e → ReportsFault path.toList e) {path : String}
    {index : Nat} {items : List Value} (herror : checkItems check path index items = .error e) :
    ReportsFault path.toList e := by
  induction items generalizing index with
  | nil => cases herror
  | cons item rest ih =>
    rw [checkItems] at herror
    rcases bind_eq_error.1 herror with hitem | ⟨⟨⟩, -, hrest⟩
    · exact (h item _ e hitem).mono (prefix_itemPath path index)
    · exact ih hrest

theorem checkFields_reports
    (h : ∀ field ∈ fields, ∀ value path e, check field.2 value path = .error e →
      ReportsFault path.toList e)
    (herror : checkFields fields d container = .error e) : ReportsFault (frontOf container) e := by
  induction fields with
  | nil => cases herror
  | cons field rest ih =>
    obtain ⟨hfield, hrest⟩ := List.forall_mem_cons.1 h
    rw [checkFields] at herror
    rcases bind_eq_error.1 herror with hfirst | ⟨⟨⟩, -, hlater⟩
    · exact (hfield _ _ e hfirst).mono (frontOf_prefix_join container field.1)
    · exact ih hrest hlater

theorem checkDeclared_reports (herror : checkDeclared fields d container = .error e) :
    ReportsFault (frontOf container) e := by
  unfold checkDeclared at herror
  split at herror
  · rename_i field _
    obtain rfl := Except.error.inj herror
    exact ⟨.undeclared, join container field.1, rfl, frontOf_prefix_join container field.1⟩
  · cases herror

theorem checkDocument_reports
    (h : ∀ field ∈ fields, ∀ value path e, check field.2 value path = .error e →
      ReportsFault path.toList e)
    (herror : (do checkFields fields d container
                  checkDeclared fields d container : Except Error Unit) = .error e) :
    ReportsFault (frontOf container) e := by
  rcases bind_eq_error.1 herror with hfields | ⟨⟨⟩, -, hdeclared⟩
  · exact checkFields_reports h hfields
  · exact checkDeclared_reports hdeclared

end

/-- A check that does not succeed reports a fault at the place checked or inside it. -/
theorem check_reports {shape : Shape} {value : Option Value} {path : String} {e : Error}
    (herror : check shape value path = .error e) : ReportsFault path.toList e := by
  induction shape using induct_items generalizing value path e with
  | plain shape hobject hoptional harray =>
    rcases value with _ | v
    · have hmissing : check shape none path = .error (Fault.missing.toError path) := by
        cases shape with
        | optional inner => exact absurd rfl (hoptional inner)
        | _ => rfl
      obtain rfl := Except.error.inj (hmissing.symm.trans herror)
      exact reportsFault_toError .missing path
    · have hvalue : check shape (some v) path = .ok () ∨
          check shape (some v) path = .error ((Fault.mismatch shape).toError path) := by
        cases shape with
        | object fields => exact absurd rfl (hobject fields)
        | optional inner => exact absurd rfl (hoptional inner)
        | array item => exact absurd rfl (harray item)
        | _ => cases v <;> first | exact .inl rfl | exact .inr rfl
      rcases hvalue with hok | hmismatch
      · cases hok.symm.trans herror
      · obtain rfl := Except.error.inj (hmismatch.symm.trans herror)
        exact reportsFault_toError (.mismatch shape) path
  | array item ih =>
    rcases value with _ | v
    · obtain rfl := Except.error.inj herror
      exact reportsFault_toError .missing path
    · cases v with
      | array items => exact checkItems_reports (fun _ _ _ h => ih h) herror
      | _ =>
        obtain rfl := Except.error.inj herror
        exact reportsFault_toError (.mismatch _) path
  | optional inner ih =>
    rcases value with _ | v
    · cases herror
    · cases v with
      | null => cases herror
      | _ => exact ih herror
  | object fields ih =>
    rcases value with _ | v
    · obtain rfl := Except.error.inj herror
      exact reportsFault_toError .missing path
    · cases v with
      | document d =>
        exact checkDocument_reports (fun field hfield _ _ _ h => ih field hfield h) herror
      | _ =>
        obtain rfl := Except.error.inj herror
        exact reportsFault_toError (.mismatch _) path

/-! ## Records -/

/-- The record is one of those that the shape is for: any record, or one with the declared fields. -/
def AcceptsRecord (shape : Shape) (record : Document) : Prop :=
  shape = .any ∨ ∃ fields, shape = .object fields ∧ shape.Conforms (some (.document record))

/-- The check of an object that is a record is that of an object inside one, at another path. -/
theorem validate_object_eq_ok (fields : List (String × Shape)) (record : Document) :
    (object fields).validate record = .ok () ↔
      (object fields).Conforms (some (.document record)) := by
  have hinside := check_eq_ok_iff (.object fields) (some (.document record)) ""
  refine Iff.trans ?_ hinside
  refine (checkDocument_eq_ok none).trans (Iff.trans ?_ (checkDocument_eq_ok (some "")).symm)
  refine and_congr_left' (forall₂_congr fun field _ => ?_)
  rw [check_eq_ok_iff, check_eq_ok_iff]

theorem validate_eq_ok_iff (shape : Shape) (record : Document) :
    shape.validate record = .ok () ↔ shape.AcceptsRecord record := by
  cases shape with
  | any => exact iff_of_true rfl (.inl rfl)
  | object fields =>
    rw [validate_object_eq_ok]
    constructor
    · exact fun h => .inr ⟨fields, rfl, h⟩
    · rintro (h | ⟨_, -, h⟩)
      · cases h
      · exact h
  | _ =>
    refine iff_of_false (fun h => nomatch h) ?_
    rintro (h | ⟨_, h, -⟩) <;> cases h

theorem validate_eq_error {shape : Shape} {record : Document} {e : Error}
    (h : shape.validate record = .error e) : ∃ detail, e = .invalidRecord detail := by
  cases shape with
  | any => cases h
  | object fields =>
    obtain ⟨fault, place, rfl, -⟩ := checkDocument_reports (fun _ _ _ _ _ => check_reports) h
    exact ⟨_, rfl⟩
  | _ => exact ⟨_, (Except.error.inj h).symm⟩

/-- A shape accepts exactly the records that it is for, and answers for every other one that the
record is invalid. -/
theorem validate_accepts_iff (shape : Shape) (record : Document) :
    (shape.validate record = .ok () ↔ shape.AcceptsRecord record) ∧
      ((∃ detail, shape.validate record = .error (.invalidRecord detail)) ↔
        ¬ shape.AcceptsRecord record) := by
  refine ⟨validate_eq_ok_iff shape record, ?_⟩
  rw [← validate_eq_ok_iff]
  cases hvalidate : shape.validate record with
  | ok result => simp
  | error e =>
    obtain ⟨detail, rfl⟩ := validate_eq_error hvalidate
    simp

end Shape

end FieldGuard
