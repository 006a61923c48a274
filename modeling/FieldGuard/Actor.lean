import FieldGuard.Dict.Sorted
import FieldGuard.Error

/-!
# Actors

Whoever an operation is done for. The superadmin is not checked at all; any other actor holds
tokens, and may do what requires none but those.
-/

namespace FieldGuard

/-- An actor with its tokens. -/
structure Member where
  id : String
  tokens : List String
deriving DecidableEq, Repr, Inhabited

namespace Member

/-- Whether the actor holds every required token. -/
def grants (member : Member) (required : List String) : Bool :=
  required.all member.tokens.contains

/-- The tokens, each once and in order. -/
def tokenSet (member : Member) : List String :=
  (SortedDict.ofList (member.tokens.map (·, ()))).keys

end Member

/-- Whoever an operation is done for. -/
inductive Actor where
  /-- Every operation is allowed, and nothing is withheld. -/
  | superadmin
  | member (member : Member)
deriving DecidableEq, Repr

/-- The actors that a store knows. -/
structure Registry where
  /-- The identifier that stands for the superadmin. -/
  superadminId : String
  /-- The other actors by their identifiers. -/
  members : SortedDict Member
deriving DecidableEq

namespace Registry

/-- A registry that knows the superadmin only. -/
def empty (superadminId : String) : Registry :=
  ⟨superadminId, .empty⟩

/-- Whether an identifier is in use. -/
def isTaken (registry : Registry) (id : String) : Bool :=
  id == registry.superadminId || registry.members.contains id

/-- Adds an actor. -/
def insert (registry : Registry) (member : Member) : Registry :=
  { registry with members := registry.members.insert member.id member }

/-- Takes an actor out. -/
def erase (registry : Registry) (id : String) : Registry :=
  { registry with members := registry.members.erase id }

/-- The actor of an identifier. -/
def resolve (registry : Registry) (id : String) : Except Error Actor :=
  if id = registry.superadminId then .ok .superadmin
  else match registry.members.get? id with
    | some member => .ok (.member member)
    | none => .error (.actorNotFound id)

end Registry

end FieldGuard
