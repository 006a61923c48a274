import FieldGuard.Dict

/-!
# Values and documents

The values a record is made of, and documents: dictionaries from field names to
values that keep the order in which the fields arrived. Documents and lists nest
to any depth. Deprecated pointers into a database are left out: they would be one more
kind like `objectId`, equal to itself alone and without an order.

* `Document.DotFree`: no field name reached through documents contains a dot, so
  that a dotted path names at most one place;
* `Document.DistinctKeys`: no document at any depth names a field twice.
-/

namespace FieldGuard

/-- A value of a field. -/
inductive Value where
  | null
  | undefined
  | boolean (b : Bool)
  | int32 (n : Int32)
  | int64 (n : Int64)
  | double (x : Float)
  | string (text : String)
  /-- A moment, in milliseconds since the start of 1970. -/
  | dateTime (millis : Int64)
  | array (items : List Value)
  | document (fields : List (String × Value))
  | objectId (bytes : List UInt8)
  | binary (subtype : UInt8) (bytes : List UInt8)
  | timestamp (time increment : UInt32)
  | regularExpression (pattern options : String)
  /-- A decimal number in its 16 bytes of storage. -/
  | decimal128 (bytes : List UInt8)
  | symbol (text : String)
  | code (text : String)
  /-- Code with the document its free names are looked up in. -/
  | codeWithScope (text : String) (scope : List (String × Value))
  /-- Smaller than every other value. -/
  | minKey
  /-- Larger than every other value. -/
  | maxKey
deriving Inhabited

/-- Field names with their values, in order of arrival. -/
abbrev Document := Dict Value

namespace Value

/-- The fields of a document. -/
def asDocument? : Value → Option Document
  | document fields => some fields
  | _ => none

/-- The text of a string. -/
def asString? : Value → Option String
  | string text => some text
  | _ => none

/-- Whether the value is a document. -/
def isDocument : Value → Bool
  | document _ => true
  | _ => false

/-- Whether the value is the undefined one. -/
def isUndefined : Value → Bool
  | undefined => true
  | _ => false

/-- Whether the value is one of the two that stand for nothing. -/
def isNothing : Value → Bool
  | null | undefined => true
  | _ => false

mutual

/-- No field name inside the value, reached through documents, contains a dot. -/
def DotFree : Value → Prop
  | document fields => FieldsDotFree fields
  | _ => True

/-- No field name in the list, or reached from it through documents, contains a dot. -/
def FieldsDotFree : List (String × Value) → Prop
  | [] => True
  | (key, value) :: rest => '.' ∉ key.toList ∧ value.DotFree ∧ FieldsDotFree rest

end

mutual

/-- No document at any depth of the value names a field twice. -/
def DistinctKeys : Value → Prop
  | document fields => (fields.map Prod.fst).Nodup ∧ FieldsDistinctKeys fields
  | codeWithScope _ scope => (scope.map Prod.fst).Nodup ∧ FieldsDistinctKeys scope
  | array items => ItemsDistinctKeys items
  | _ => True

/-- No document inside the values of the list names a field twice. -/
def FieldsDistinctKeys : List (String × Value) → Prop
  | [] => True
  | (_, value) :: rest => value.DistinctKeys ∧ FieldsDistinctKeys rest

/-- No document inside the items names a field twice. -/
def ItemsDistinctKeys : List Value → Prop
  | [] => True
  | value :: rest => value.DistinctKeys ∧ ItemsDistinctKeys rest

end

end Value

namespace Document

/-- No field name reached through documents contains a dot; lists are not entered. -/
def DotFree (d : Document) : Prop :=
  (Value.document d).DotFree

/-- No document at any depth names a field twice. -/
def DistinctKeys (d : Document) : Prop :=
  (Value.document d).DistinctKeys

end Document

end FieldGuard
