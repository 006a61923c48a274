import FieldGuard.Actor
import FieldGuard.Backend
import FieldGuard.Config

/-!
# The store

A `Store` knows actors and collections and keeps the records of the latter in a backend. This
module holds what registers actors and collections; `FieldGuard.Store.Reading` and
`FieldGuard.Store.Writing` hold what is done with records.
-/

namespace FieldGuard

/-- The state of a store. -/
structure Store where
  /-- The actors. -/
  registry : Registry
  /-- The registered collections by name. -/
  configs : SortedDict Config
  /-- The records. -/
  backend : Backend

namespace Store

/-- A store without actors, but for the superadmin, and without collections. -/
def empty (config : StoreConfig) : Store :=
  ⟨.empty config.superadminId, .empty, .empty⟩

/-- What is done to the store, with a result or an error. -/
abbrev Action (α : Type) := ExceptT Error (StateM Store) α

/-- Does something to the storage of the store. -/
def onBackend {α : Type} (action : Backend.Action α) : Action α := do
  let store ← get
  let (result, backend) := (action.run.run store.backend).run
  set { store with backend }
  MonadExcept.ofExcept result

/-- Registers an actor, unless its identifier is taken. -/
def registerActor (member : Member) : Action Unit := do
  if (← get).registry.isTaken member.id then throw (.actorAlreadyExists member.id)
  modify fun store => { store with registry := store.registry.insert member }

/-- Takes an actor out of the store. -/
def revokeActor (id : String) : Action Member := do
  match (← get).registry.members.get? id with
  | some member =>
    modify fun store => { store with registry := store.registry.erase id }
    return member
  | none => throw (.actorNotFound id)

/-- The actor of an identifier. -/
def resolve (id : String) : Action Actor := do
  MonadExcept.ofExcept ((← get).registry.resolve id)

/-- Registers a collection, unless its name is taken, and creates it in the storage. -/
def registerCollection (config : Config) : Action Unit := do
  if (← get).configs.contains config.name then throw (.collectionAlreadyExists config.name)
  onBackend (Backend.createCollection config.name)
  modify fun store => { store with configs := store.configs.insert config.name config }

/-- The configuration of a registered collection. -/
def collection (name : String) : Action Config := do
  match (← get).configs.get? name with
  | some config => return config
  | none => throw (.collectionNotFound name)

/-- Drops a collection with its records. It stays registered if the storage fails to drop it. -/
def dropCollection (name : String) : Action Unit := do
  let _ ← collection name
  onBackend (Backend.dropCollection name)
  modify fun store => { store with configs := store.configs.erase name }

/-- The names of the collections in the storage, in order. -/
def listCollections : Action (List String) :=
  onBackend Backend.listCollections

end Store

end FieldGuard
