import FieldGuard.Permission
import FieldGuard.Value

/-!
# Records

A record is a document with four fields of the store's own: its identifier, who created it and
when, who changed it last and when, and whether it was deleted, by whom and when. A stored
record goes together with its permissions.
-/

namespace FieldGuard

/-- Who did something, and when, in milliseconds since the start of 1970. -/
structure Stamp where
  time : Int64
  actor : String
deriving DecidableEq

/-- A stamp as a value of a field. -/
def Stamp.toValue (stamp : Stamp) : Value :=
  .document [("at", .dateTime stamp.time), ("by", .string stamp.actor)]

namespace Record

/-- The field of the identifier. -/
def idField : String := "_id"

/-- The field of the stamp of creation. -/
def createdField : String := "_created"

/-- The field of the stamp of the last change. -/
def updatedField : String := "_updated"

/-- The field of the stamp of deletion, or `false`. -/
def deletedField : String := "_deleted"

/-- The fields of the store's own, in the order in which they are stamped. -/
def systemFields : List String :=
  [idField, createdField, updatedField, deletedField]

/-- Whether a field is one of the store's own. -/
def isSystemField (key : String) : Bool :=
  systemFields.contains key

/-- The record without the store's own fields. -/
def content (record : Document) : Document :=
  record.filter fun field => !isSystemField field.1

/-- The identifier of a record. -/
def id? (record : Document) : Option String :=
  (Dict.get? record idField).bind Value.asString?

/-- Whether a record carries a stamp of deletion. -/
def isDeleted (record : Document) : Bool :=
  match Dict.get? record deletedField with
  | some (.document _) => true
  | _ => false

/-- A new record: the store's own fields in front of the content. -/
def stampCreated (payload : Document) (id : String) (stamp : Stamp) : Document :=
  [(idField, .string id), (createdField, stamp.toValue), (updatedField, stamp.toValue),
    (deletedField, .boolean false)] ++ content payload

/-- A record changed by someone. -/
def stampUpdated (record : Document) (stamp : Stamp) : Document :=
  Dict.insert record updatedField stamp.toValue

/-- A record deleted by someone, which also changes it. -/
def stampDeleted (record : Document) (stamp : Stamp) : Document :=
  Dict.insert (Dict.insert record updatedField stamp.toValue) deletedField stamp.toValue

end Record

/-- A record with its permissions. -/
structure Entry where
  record : Document
  permissions : Twin

/-- The identifier of an entry, which is that of its permissions. -/
def Entry.id (entry : Entry) : String :=
  entry.permissions.id

/-- The entries that a query selects. -/
structure Selection where
  entries : List Entry
  /-- Whether the limit of the query cut off further matches. -/
  isLimited : Bool

end FieldGuard
