import FieldGuard.Calendar
import FieldGuard.Error
import FieldGuard.Filter.Reading
import FieldGuard.Json
import FieldGuard.Number.Reading
import FieldGuard.Value.Text

/-!
# Values and JSON

JSON knows fewer kinds than values do. The others are written as objects with names that start with
a dollar sign, such as `$date`. Reading turns such an object into the value that it stands for, from
the inside out; one that does not spell a value stays a document. Whole numbers become integers of
64 bits.
-/

namespace FieldGuard

namespace Value

/-- The characters of a text in order. -/
def sortedOptions (options : String) : String :=
  String.ofList (options.toList.mergeSort (· ≤ ·))

/-- Whether a text holds the character that ends texts in storage. -/
def hasNul (text : String) : Bool :=
  text.toList.contains '\x00'

/-- The bytes of a binary value of the general subtype. -/
def genericBytes? : Value → Option (List UInt8)
  | binary 0 bytes => some bytes
  | _ => none

/-- The two numbers of a timestamp: both of 32 bits, or both of 64 bits and in the range of
unsigned ones of 32. -/
def readTimestamp? (fields : Document) : Option Value :=
  match Dict.get? fields "t", Dict.get? fields "i" with
  | some (.int32 t), some (.int32 i) => some (.timestamp t.toUInt32 i.toUInt32)
  | some (.int64 t), some (.int64 i) =>
    if 0 ≤ t ∧ 0 ≤ i ∧ t ≤ 4294967295 ∧ i ≤ 4294967295 then
      some (.timestamp t.toUInt64.toUInt32 i.toUInt64.toUInt32)
    else none
  | _, _ => none

/-- A binary value: its bytes in base 64 and its subtype in two hexadecimal digits, or both as
values. -/
def readBinary? (fields : Document) : Option Value :=
  match Dict.get? fields "base64" with
  | some (.string encoded) => do
    let bytes ← Text.Base64.decode? encoded
    match Dict.get? fields "subType" with
    | some (.string digits) =>
      match ← Text.Hex.decode? digits with
      | [subtype] => return .binary subtype bytes
      | _ => none
    | _ => none
  | _ => do
    let bytes ← (Dict.get? fields "bytes").bind genericBytes?
    match Dict.get? fields "subType" with
    | some (.int32 n) => if 0 ≤ n ∧ n < 256 then return .binary n.toUInt32.toUInt8 bytes else none
    | _ => none

/-- A regular expression, its options in order. -/
def readRegularExpression? (fields : Document) : Option Value :=
  match Dict.get? fields "pattern", Dict.get? fields "options" with
  | some (.string pattern), some (.string options) =>
    if hasNul pattern || hasNul options then none
    else some (.regularExpression pattern (sortedOptions options))
  | _, _ => none

/-- The double of a text; infinities and NaN also have names. -/
def readDouble? (text : String) : Option Float :=
  match text with
  | "Infinity" => some (1 / 0)
  | "-Infinity" => some (-1 / 0)
  | "NaN" => some (0 / 0)
  | text => Number.readFloat? text

/-- A moment: a number of milliseconds, or a text. -/
def readDate? : Value → Option Value
  | int64 millis => some (.dateTime millis)
  | string text => (Calendar.read? text).map fun millis => .dateTime (Int64.ofInt millis)
  | _ => none

/-- Whether a value is the integer 1. -/
def isOne : Value → Bool
  | int32 n => n == 1
  | int64 n => n == 1
  | _ => false

/-- The value that a field named with a dollar sign spells by itself. -/
def ofSpelling? (key : String) (value : Value) : Option Value :=
  match key, value with
  | "$oid", string digits => do
    let bytes ← Text.Hex.decode? digits
    if bytes.length = 12 then return .objectId bytes else none
  | "$symbol", string text => some (.symbol text)
  | "$numberInt", string digits => (Number.readInt32? digits).map .int32
  | "$numberLong", string digits => (Number.readInt64? digits).map .int64
  | "$numberDouble", string text => (readDouble? text).map .double
  | "$numberDecimalBytes", value =>
    match genericBytes? value with
    | some bytes => if bytes.length = 16 then some (.decimal128 bytes) else none
    | none => none
  | "$binary", document fields => readBinary? fields
  | "$code", string text => some (.code text)
  | "$timestamp", document fields => readTimestamp? fields
  | "$regularExpression", document fields => readRegularExpression? fields
  | "$date", value => readDate? value
  | "$minKey", value => if isOne value then some .minKey else none
  | "$maxKey", value => if isOne value then some .maxKey else none
  | "$undefined", boolean true => some .undefined
  | _, _ => none

/-- The value that a document spells, or the document itself. -/
def ofDocument (fields : Document) : Value :=
  match fields with
  | [(key, value)] => (ofSpelling? key value).getD (.document fields)
  | [("$code", .string text), ("$scope", .document scope)] => .codeWithScope text scope
  | _ => .document fields

mutual

/-- The value of a JSON value. A whole number must fit into 64 bits. -/
def ofJson : Json → Except Error Value
  | .null => .ok .null
  | .bool b => .ok (.boolean b)
  | .int n =>
    if n < 2 ^ 63 then .ok (.int64 (Int64.ofInt n))
    else .error (.serialization
      ("BSON error. Kind: Unsigned integer " ++ toString n ++ " cannot fit into BSON."))
  | .float x => .ok (.double x)
  | .string text => .ok (.string text)
  | .array items => do return .array (← ofJsonItems items)
  | .object fields => do return ofDocument (← ofJsonFields fields)

/-- The values of the items of a list. -/
def ofJsonItems : List Json → Except Error (List Value)
  | [] => .ok []
  | item :: rest => do return (← ofJson item) :: (← ofJsonItems rest)

/-- The fields of an object with their values. -/
def ofJsonFields : List (String × Json) → Except Error (List (String × Value))
  | [] => .ok []
  | (key, item) :: rest => do return (key, ← ofJson item) :: (← ofJsonFields rest)

end

/-- A JSON object with one field. -/
def spelled (key : String) (value : Json) : Json :=
  .object [(key, value)]

mutual

/-- The JSON value of a value. Infinities and NaN become null. -/
def toJson : Value → Json
  | null => .null
  | undefined => spelled "$undefined" (.bool true)
  | boolean b => .bool b
  | int32 n => .int n.toInt
  | int64 n => .int n.toInt
  | double x => if x.isFinite then .float x else .null
  | string text => .string text
  | dateTime millis => spelled "$date" (spelled "$numberLong" (.string (toString millis.toInt)))
  | array items => .array (itemsToJson items)
  | document fields => .ofFields (fieldsToJson fields)
  | objectId bytes => spelled "$oid" (.string (Text.Hex.encode bytes))
  | binary subtype bytes =>
    if subtype = 0 then .array (bytes.map fun b => .int b.toNat)
    else spelled "$binary" (.object [("base64", .string (Text.Base64.encode bytes)),
      ("subType", .string (Text.Hex.encode [subtype]))])
  | timestamp time increment =>
    spelled "$timestamp" (.object [("i", .int increment.toNat), ("t", .int time.toNat)])
  | regularExpression pattern options =>
    spelled "$regularExpression" (.object [("options", .string options),
      ("pattern", .string pattern)])
  | decimal128 bytes => spelled "$numberDecimal" (.string (Number.decimalText bytes))
  | symbol text => spelled "$symbol" (.string text)
  | code text => spelled "$code" (.string text)
  | codeWithScope text scope =>
    .object [("$code", .string text), ("$scope", .ofFields (fieldsToJson scope))]
  | minKey => spelled "$minKey" (.int 1)
  | maxKey => spelled "$maxKey" (.int 1)

/-- The JSON values of items. -/
def itemsToJson : List Value → List Json
  | [] => []
  | item :: rest => item.toJson :: itemsToJson rest

/-- The JSON values of fields. -/
def fieldsToJson : List (String × Value) → List (String × Json)
  | [] => []
  | (key, value) :: rest => (key, value.toJson) :: fieldsToJson rest

end

/-- What an error says of a value that should have been an object. -/
def notAnObject (value : Value) : String :=
  "expected an object, got " ++ value.text

end Value

namespace Record

/-- The record of a JSON object. -/
def ofJson (json : Json) : Except Error Document := do
  match ← Value.ofJson json with
  | .document fields => return fields
  | value => throw (.invalidRecord value.notAnObject)

end Record

namespace Filter

/-- The filter of a JSON object. -/
def ofJson (json : Json) : Except Error Filter := do
  match ← Value.ofJson json with
  | .document d => return ofDocument d
  | value => throw (.invalidFilter value.notAnObject)

end Filter

end FieldGuard
