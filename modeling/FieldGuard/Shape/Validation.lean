import FieldGuard.Error
import FieldGuard.Shape
import FieldGuard.Value

/-!
# Validation

Whether a record has the shape that its collection asks for. The error names the first field at
fault: declared fields are checked in the order of the shape, each in depth, and then the first
field that is not declared is reported.
-/

namespace FieldGuard

/-- What is wrong with a field. -/
inductive Fault where
  | missing
  | undeclared
  | mismatch (shape : Shape)

/-- A fault at a path, as an error. -/
def Fault.toError (fault : Fault) (path : String) : Error :=
  let reason := match fault with
    | .missing => "is missing"
    | .undeclared => "is not declared"
    | .mismatch shape => "does not match " ++ shape.text
  .invalidRecord ("field `" ++ path ++ "` " ++ reason)

namespace Shape

/-- The path of an item of a list. -/
def itemPath (path : String) (index : Nat) : String :=
  path ++ "[" ++ toString index ++ "]"

/-- Runs a check on each item, with its path, until one fails. -/
def checkItems (check : Value → String → Except Error Unit) (path : String) :
    Nat → List Value → Except Error Unit
  | _, [] => .ok ()
  | index, item :: rest => do
    check item (itemPath path index)
    checkItems check path (index + 1) rest

/-- Reports the first field that is not declared. -/
def checkDeclared (fields : List (String × Shape)) (record : Document)
    (container : Option String) : Except Error Unit :=
  match record.find? fun field => !Dict.contains fields field.1 with
  | some field => .error (Fault.undeclared.toError (Path.join container field.1))
  | none => .ok ()

mutual

/-- Checks a value that may be missing, at a path. -/
def check : Shape → Option Value → String → Except Error Unit
  | optional inner, value, path =>
    match value with
    | none | some .null => .ok ()
    | some value => check inner (some value) path
  | _, none, path => .error (Fault.missing.toError path)
  | any, some _, _ => .ok ()
  | boolean, some (.boolean _), _ => .ok ()
  | number, some (.int32 _), _ => .ok ()
  | number, some (.int64 _), _ => .ok ()
  | number, some (.double _), _ => .ok ()
  | string, some (.string _), _ => .ok ()
  | dateTime, some (.dateTime _), _ => .ok ()
  | array item, some (.array items), path =>
    checkItems (fun value path => check item (some value) path) path 0 items
  | object fields, some (.document nested), path => do
    checkFields fields nested (some path)
    checkDeclared fields nested (some path)
  | shape, some _, path => .error ((Fault.mismatch shape).toError path)

/-- Checks the declared fields of a document. -/
def checkFields : List (String × Shape) → Document → Option String → Except Error Unit
  | [], _, _ => .ok ()
  | (key, shape) :: rest, record, container => do
    check shape (Dict.get? record key) (Path.join container key)
    checkFields rest record container

end

/-- Checks a record. Only `any` and shapes of documents are shapes of records. -/
def validate (shape : Shape) (record : Document) : Except Error Unit :=
  match shape with
  | any => .ok ()
  | object fields => do
    checkFields fields record none
    checkDeclared fields record none
  | _ => .error (.invalidRecord "record shape must be an object")

end Shape

end FieldGuard
