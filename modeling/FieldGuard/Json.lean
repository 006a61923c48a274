import FieldGuard.Dict.Sorted

/-!
# JSON

JSON values, with whole numbers kept apart from the others. The fields of an object are in the
order of their names.
-/

namespace FieldGuard

/-- A JSON value. -/
inductive Json where
  | null
  | bool (b : Bool)
  /-- A whole number. -/
  | int (n : Int)
  /-- A number with a fraction or an exponent. -/
  | float (x : Float)
  | string (text : String)
  | array (items : List Json)
  | object (fields : List (String × Json))
deriving Inhabited

namespace Json

/-- An object with the given fields; the last of several with one name stays. -/
def ofFields (fields : List (String × Json)) : Json :=
  .object (SortedDict.ofList fields).entries

/-- A list of texts. -/
def strings (texts : List String) : Json :=
  .array (texts.map .string)

end Json

end FieldGuard
