import FieldGuard.Calendar
import FieldGuard.Number.Decimal
import FieldGuard.Number.Shortest
import FieldGuard.Text.Base64
import FieldGuard.Text.Hex
import FieldGuard.Value

/-!
# The text of a value

How messages show a value. Text stands between quotes as it is, without escapes.
-/

namespace FieldGuard

namespace Value

mutual

/-- A value as messages show it. -/
def text : Value → String
  | null => "null"
  | undefined => "undefined"
  | boolean b => if b then "true" else "false"
  | int32 n => toString n.toInt
  | int64 n => toString n.toInt
  | double x => Number.render x
  | string s => "\"" ++ s ++ "\""
  | dateTime millis => "DateTime(\"" ++ Calendar.render millis.toInt ++ "\")"
  | array items => "[" ++ itemsText items ++ "]"
  | document fields =>
    if fields.isEmpty then "\x7b\x7d" else "\x7b " ++ fieldsText fields ++ " \x7d"
  | objectId bytes => "ObjectId(\"" ++ Text.Hex.encode bytes ++ "\")"
  | binary subtype bytes =>
    "Binary(0x" ++ Text.Hex.ofNat subtype.toNat ++ ", " ++ Text.Base64.encode bytes ++ ")"
  | timestamp time increment =>
    "Timestamp(" ++ toString time.toNat ++ ", " ++ toString increment.toNat ++ ")"
  | regularExpression pattern options => "/" ++ pattern ++ "/" ++ options
  | decimal128 bytes => Number.decimalText bytes
  | symbol s => "Symbol(\"" ++ s ++ "\")"
  | code s => s
  | codeWithScope s _ => s
  | minKey => "MinKey"
  | maxKey => "MaxKey"

/-- Items with commas between them. -/
def itemsText : List Value → String
  | [] => ""
  | [item] => item.text
  | item :: rest => item.text ++ ", " ++ itemsText rest

/-- Fields with commas between them. -/
def fieldsText : List (String × Value) → String
  | [] => ""
  | [(key, value)] => "\"" ++ key ++ "\": " ++ value.text
  | (key, value) :: rest => "\"" ++ key ++ "\": " ++ value.text ++ ", " ++ fieldsText rest

end

end Value

end FieldGuard
