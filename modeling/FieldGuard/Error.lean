/-!
# Errors

Why an operation of the store failed, and the text that says so.
-/

namespace FieldGuard

/-- Why an operation failed. -/
inductive Error where
  /-- A value could not be exchanged with another notation. -/
  | serialization (detail : String)
  /-- The store could not be set up. -/
  | initialization (detail : String)
  | recordAlreadyExists (id collection : String)
  | recordNotFound (id collection : String)
  | collectionNotFound (name : String)
  | collectionAlreadyExists (name : String)
  | actorNotFound (id : String)
  | actorAlreadyExists (id : String)
  | invalidRecord (detail : String)
  | invalidFilter (detail : String)
  /-- The storage underneath failed. -/
  | backend (detail : String)
deriving DecidableEq, Repr

namespace Error

/-- The text of an error. -/
def message : Error → String
  | serialization detail => "Serialization error: " ++ detail
  | initialization detail => "Initialization error: " ++ detail
  | recordAlreadyExists id collection =>
    "Record " ++ id ++ " already exists in collection " ++ collection
  | recordNotFound id collection => "Record not found " ++ id ++ " in collection " ++ collection
  | collectionNotFound name => "Collection not found: " ++ name
  | collectionAlreadyExists name => "Collection already exists: " ++ name
  | actorNotFound id => "Actor not found: " ++ id
  | actorAlreadyExists id => "Actor already exists: " ++ id
  | invalidRecord detail => "Invalid record: " ++ detail
  | invalidFilter detail => "Invalid filter: " ++ detail
  | backend detail => "Backend error: " ++ detail

end Error

end FieldGuard
