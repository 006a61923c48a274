import FieldGuard.Config
import FieldGuard.Json

/-!
# Settings as JSON

Shapes, permissions and configurations are kept as JSON. Reading ignores fields that it does not
know. A structure may also be given as the list of its fields in order. What is malformed is
refused as a whole.
-/

namespace FieldGuard

namespace Json

/-- A text. -/
def asString? : Json → Option String
  | string text => some text
  | _ => none

/-- A truth value. -/
def asBool? : Json → Option Bool
  | bool b => some b
  | _ => none

/-- A list of texts. -/
def asStrings? : Json → Option (List String)
  | array items => items.mapM asString?
  | _ => none

/-- A structure's fields by name: those of an object, or those of a list in the order of the names
given. A list may not be longer than that. -/
def fieldsOf? (names : List String) : Json → Option (Dict Json)
  | object fields => some fields
  | array items => if items.length ≤ names.length then some (names.zip items) else none
  | _ => none

/-- A field that may be missing. -/
def optionalField? {α : Type} (fields : Dict Json) (name : String) (default : α)
    (read : Json → Option α) : Option α :=
  match Dict.get? fields name with
  | some value => read value
  | none => some default

/-- A field that may not be missing. -/
def field? {α : Type} (fields : Dict Json) (name : String) (read : Json → Option α) : Option α :=
  (Dict.get? fields name).bind read

/-- The values of an object, each read alike, in the order of their names. -/
def entriesOf? {α : Type} (read : Json → Option α) : Json → Option (SortedDict α)
  | object fields => do
    let entries ← fields.mapM fun (key, value) => do return (key, ← read value)
    return SortedDict.ofList entries
  | _ => none

end Json

namespace Operation

/-- The name of an operation. -/
def name : Operation → String
  | read => "read"
  | update => "update"
  | remove => "remove"

/-- The operation of a name. -/
def ofName? (name : String) : Option Operation :=
  [read, update, remove].find? (·.name = name)

/-- An operation is given by its name, or as an object that holds null under its name. -/
def ofJson? : Json → Option Operation
  | .string name => ofName? name
  | .object [(name, .null)] => ofName? name
  | _ => none

end Operation

namespace Triple

/-- A triple; a list of tokens that is missing is empty. -/
def ofJson? (json : Json) : Option Triple := do
  let fields ← Json.fieldsOf? ["read", "update", "remove"] json
  return {
    read := ← Json.optionalField? fields "read" [] Json.asStrings?
    update := ← Json.optionalField? fields "update" [] Json.asStrings?
    remove := ← Json.optionalField? fields "remove" [] Json.asStrings? }

/-- A triple as an object. -/
def toJson (triple : Triple) : Json :=
  .object [("read", .strings triple.read), ("remove", .strings triple.remove),
    ("update", .strings triple.update)]

end Triple

namespace Twin

/-- The permissions of a record. -/
def ofJson? (json : Json) : Option Twin := do
  let fields ← Json.fieldsOf? ["id", "fields"] json
  return ⟨← Json.field? fields "id" Json.asString?,
    ← Json.field? fields "fields" (Json.entriesOf? Triple.ofJson?)⟩

/-- Triples by path as an object. -/
def triplesToJson (triples : SortedDict Triple) : Json :=
  .object (triples.entries.map fun (path, triple) => (path, triple.toJson))

/-- The permissions of a record as an object. -/
def toJson (twin : Twin) : Json :=
  .object [("fields", triplesToJson twin.fields), ("id", .string twin.id)]

end Twin

namespace Shape

/-- The name of the kind of a shape. -/
def kindName : Shape → String
  | any => "any"
  | boolean => "boolean"
  | number => "number"
  | string => "string"
  | dateTime => "dateTime"
  | array _ => "array"
  | object _ => "object"
  | optional _ => "optional"

/-- The kinds of shapes, in order. -/
def kindNames : List String :=
  ["any", "boolean", "number", "string", "dateTime", "array", "object", "optional"]

/-- The kind of a name. -/
def kindOfName? (name : String) : Option String :=
  if kindNames.contains name then some name else none

/-- The kind that a list starts with: its name or, inside another shape, also its number. -/
def kindOfItem? (nested : Bool) : Json → Option String
  | .string name => kindOfName? name
  | .int n => if nested ∧ 0 ≤ n then kindNames[n.toNat]? else none
  | _ => none

/-- The kind that stands in a field: its name, or an object that holds null under its name or,
inside another shape, an empty object. -/
def kindOfField? (nested : Bool) : Json → Option String
  | .string name => kindOfName? name
  | .object [(name, .null)] => kindOfName? name
  | .object [(name, .object [])] => if nested then kindOfName? name else none
  | _ => none

/-- The shape of a kind, given its content, and what the content is as a shape and as the fields of
one. A shape without parts has no content, or null. -/
def make? (kind : String) (content : Option Json) (inner : Unit → Option Shape)
    (fields : Unit → Option (List (String × Shape))) : Option Shape :=
  let plain (shape : Shape) : Option Shape :=
    match content with
    | none | some .null => some shape
    | some _ => none
  match kind with
  | "any" => plain any
  | "boolean" => plain boolean
  | "number" => plain number
  | "string" => plain string
  | "dateTime" => plain dateTime
  | "array" => (inner ()).map array
  | "optional" => (inner ()).map optional
  | "object" => (fields ()).map object
  | _ => none

mutual

/-- A shape is an object with a kind, and with the parts of the shape if it has any; or the list
of the two. What stands in a field of an object is inside another shape. -/
def read? (nested : Bool) : Json → Option Shape
  | .object fields => do
    readIn? (← (Dict.get? fields "type").bind (kindOfField? nested)) fields
  | .array [kind, content] => do
    make? (← kindOfItem? nested kind) (some content) (fun _ => read? nested content)
      (fun _ => readFields? nested content)
  | _ => none

/-- The shape of a kind whose parts stand among the fields of an object. -/
def readIn? (kind : String) : List (String × Json) → Option Shape
  | [] => make? kind none (fun _ => none) (fun _ => none)
  | (key, content) :: rest =>
    if key = "of" then
      make? kind (some content) (fun _ => read? true content) (fun _ => readFields? true content)
    else readIn? kind rest

/-- The shapes of the fields of a document. -/
def readFields? (nested : Bool) : Json → Option (List (String × Shape))
  | .object fields => readEach? nested fields
  | _ => none

/-- The shapes of some fields. -/
def readEach? (nested : Bool) : List (String × Json) → Option (List (String × Shape))
  | [] => some []
  | (key, shape) :: rest => do return (key, ← read? nested shape) :: (← readEach? nested rest)

end

/-- The shape that a JSON value gives. -/
def ofJson? (json : Json) : Option Shape :=
  read? false json

mutual

/-- A shape as an object. -/
def toJson : Shape → Json
  | array item => .object [("of", item.toJson), ("type", .string "array")]
  | optional inner => .object [("of", inner.toJson), ("type", .string "optional")]
  | object fields => .object [("of", .ofFields (fieldsToJson fields)), ("type", .string "object")]
  | shape => .object [("type", .string shape.kindName)]

/-- The fields of a shape with their shapes. -/
def fieldsToJson : List (String × Shape) → List (String × Json)
  | [] => []
  | (key, shape) :: rest => (key, shape.toJson) :: fieldsToJson rest

end

end Shape

namespace StoreConfig

/-- The settings of a store. -/
def ofJson? (json : Json) : Option StoreConfig := do
  let fields ← Json.fieldsOf? ["superadmin_id"] json
  return ⟨← Json.optionalField? fields "superadmin_id" ({} : StoreConfig).superadminId
    Json.asString?⟩

/-- The settings of a store as an object. -/
def toJson (config : StoreConfig) : Json :=
  .object [("superadmin_id", .string config.superadminId)]

end StoreConfig

namespace Config

/-- A shape, or null for none. -/
def readShape? : Json → Option (Option Shape)
  | .null => some none
  | json => (Shape.ofJson? json).map some

/-- The settings of a collection. -/
def ofJson? (json : Json) : Option Config := do
  let fields ← Json.fieldsOf?
    ["name", "shape", "container_permissions", "default_permissions", "overrides"] json
  return {
    name := ← Json.field? fields "name" Json.asString?
    shape := ← Json.optionalField? fields "shape" none readShape?
    containerPermissions :=
      ← Json.optionalField? fields "container_permissions" false Json.asBool?
    defaultPermissions := ← Json.optionalField? fields "default_permissions" {} Triple.ofJson?
    overrides :=
      ← Json.optionalField? fields "overrides" .empty (Json.entriesOf? Triple.ofJson?) }

/-- The settings of a collection as an object. -/
def toJson (config : Config) : Json :=
  .object [("container_permissions", .bool config.containerPermissions),
    ("default_permissions", config.defaultPermissions.toJson),
    ("name", .string config.name),
    ("overrides", Twin.triplesToJson config.overrides),
    ("shape", (config.shape.map Shape.toJson).getD .null)]

end Config

end FieldGuard
