import FieldGuard.Proofs.Record
import FieldGuard.Proofs.Shape.Coverage
import FieldGuard.Store.Writing

/-!
# Validity, leaf by leaf

A shape checks each leaf of a record on its own: if a record is valid with some of its leaves
replaced, and also with some others replaced, it is valid with leaves of either kind in place
(`validate_mapLeaves`, and `Config.validate_mapLeaves` for the shape of a collection). The names
of a record, which a shape checks as well, stay as they are when leaves are replaced.
-/

namespace FieldGuard

namespace Shape

open Document (mapLeaves branches)

variable {f g h : List String → Value → Value} {fields : List (String × Shape)} {d : Document}
  {container : Option String}

/-- Each leaf of the value is what one or the other replacement makes of it. -/
def Mixes (f g h : List String → Value → Value) (branches : List (List String × Value)) : Prop :=
  ∀ branch ∈ branches, h branch.1 branch.2 = f branch.1 branch.2 ∨
    h branch.1 branch.2 = g branch.1 branch.2

/-- Whether a value has the shape is decided leaf by leaf. -/
def IsLeafwise (shape : Shape) : Prop :=
  ∀ (f g h : List String → Value → Value) (value : Value) (path : String),
    Mixes f g h value.branches → check shape (some (value.mapLeaves f)) path = .ok () →
    check shape (some (value.mapLeaves g)) path = .ok () →
    check shape (some (value.mapLeaves h)) path = .ok ()

/-- A single leaf is what one replacement or the other makes of it, so only documents with fields
matter. -/
theorem isLeafwise_iff {shape : Shape} :
    shape.IsLeafwise ↔ ∀ (f g h : List String → Value → Value) (d : Document) (path : String),
      d ≠ [] → Mixes f g h (branches d) →
      check shape (some (.document (mapLeaves f d))) path = .ok () →
      check shape (some (.document (mapLeaves g d))) path = .ok () →
      check shape (some (.document (mapLeaves h d))) path = .ok () := by
  constructor
  · intro hshape f g h d path hd hmixes
    have hdocument := hshape f g h (.document d) path
    simp only [Document.branches_document hd, Document.mapLeaves_document hd] at hdocument
    exact hdocument hmixes
  · intro hdocuments f g h value path hmixes hf hg
    rcases Value.isLeaf_or_document value with hleaf | ⟨d, hd, rfl⟩
    · rw [Value.branches_of_isLeaf hleaf] at hmixes
      rw [Value.mapLeaves_of_isLeaf hleaf] at hf hg ⊢
      rcases hmixes _ (List.mem_singleton_self _) with hsame | hsame
      · rwa [hsame]
      · rwa [hsame]
    · rw [Document.mapLeaves_document hd] at hf hg ⊢
      rw [Document.branches_document hd] at hmixes
      exact hdocuments f g h d path hd hmixes hf hg

/-- The declared fields of a document are checked leaf by leaf if their shapes are. -/
theorem checkFields_mapLeaves (hfields : ∀ field ∈ fields, field.2.IsLeafwise)
    (hmixes : Mixes f g h (branches d))
    (hf : checkFields fields (mapLeaves f d) container = .ok ())
    (hg : checkFields fields (mapLeaves g d) container = .ok ()) :
    checkFields fields (mapLeaves h d) container = .ok () := by
  rw [checkFields_eq_ok] at hf hg ⊢
  intro field hfield
  have hfield₁ := hf field hfield
  have hfield₂ := hg field hfield
  rw [Document.get?_mapLeaves] at hfield₁ hfield₂ ⊢
  cases hget : Dict.get? d field.1 with
  | none => rwa [hget] at hfield₁
  | some value =>
    rw [hget] at hfield₁ hfield₂
    exact hfields field hfield _ _ _ value _
      (fun branch hbranch =>
        hmixes _ (Document.mem_branches_of_mem (Dict.mem_of_get? hget) hbranch))
      hfield₁ hfield₂

/-- A document of fields is checked leaf by leaf if their shapes are. -/
theorem checkDocument_mapLeaves (hfields : ∀ field ∈ fields, field.2.IsLeafwise)
    (hmixes : Mixes f g h (branches d))
    (hf : (do checkFields fields (mapLeaves f d) container
              checkDeclared fields (mapLeaves f d) container : Except Error Unit) = .ok ())
    (hg : (do checkFields fields (mapLeaves g d) container
              checkDeclared fields (mapLeaves g d) container : Except Error Unit) = .ok ()) :
    (do checkFields fields (mapLeaves h d) container
        checkDeclared fields (mapLeaves h d) container : Except Error Unit) = .ok () := by
  obtain ⟨⟨⟩, hf, hdeclared⟩ := bind_eq_ok.1 hf
  obtain ⟨⟨⟩, hg, -⟩ := bind_eq_ok.1 hg
  rw [checkDeclared_eq_ok, Document.keys_mapLeaves] at hdeclared
  refine bind_eq_ok.2 ⟨(), checkFields_mapLeaves hfields hmixes hf hg, ?_⟩
  rwa [checkDeclared_eq_ok, Document.keys_mapLeaves]

theorem isLeafwise (shape : Shape) : shape.IsLeafwise := by
  induction shape using induct with
  | plain shape hobject hoptional =>
    rw [isLeafwise_iff]
    intro f g h d path _ _ hf _
    -- Of these shapes only that of any value is the shape of a document.
    cases shape with
    | any => rfl
    | object fields => exact absurd rfl (hobject fields)
    | optional inner => exact absurd rfl (hoptional inner)
    | _ => cases hf
  | optional inner ih =>
    rw [isLeafwise_iff] at ih ⊢
    exact ih
  | object fields ih =>
    rw [isLeafwise_iff]
    intro f g h d path _ hmixes hf hg
    exact checkDocument_mapLeaves ih hmixes hf hg

/-- A record with leaves of two valid ones is valid. -/
theorem validate_mapLeaves {shape : Shape} (hmixes : Mixes f g h (branches d))
    (hf : shape.validate (mapLeaves f d) = .ok ()) (hg : shape.validate (mapLeaves g d) = .ok ()) :
    shape.validate (mapLeaves h d) = .ok () := by
  cases shape with
  | any => rfl
  | object fields =>
    exact checkDocument_mapLeaves (fun field _ => field.2.isLeafwise) hmixes hf hg
  | _ => cases hf

end Shape

/-- A record whose content has leaves of two valid ones is valid in its collection. -/
theorem Config.validate_mapLeaves (config : Config) {f g h : List String → Value → Value}
    {record : Document}
    (hmixes : Shape.Mixes f g h (Document.branches (Record.content record)))
    (hf : config.validate (Document.mapLeaves f record) = .ok ())
    (hg : config.validate (Document.mapLeaves g record) = .ok ()) :
    config.validate (Document.mapLeaves h record) = .ok () := by
  cases hshape : config.shape with
  | none => rw [validate, hshape]
  | some shape =>
    rw [validate, hshape] at hf hg ⊢
    dsimp only at hf hg ⊢
    rw [Record.content_mapLeaves] at hf hg ⊢
    exact shape.validate_mapLeaves hmixes hf hg

end FieldGuard
