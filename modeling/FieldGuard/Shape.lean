import FieldGuard.Dict
import FieldGuard.Path
import FieldGuard.Text.Quoted

/-!
# Shapes

A shape says what a value must look like. The shape of a collection also lists the paths of the
fields that its records may have (`Shape.fieldPaths`).
-/

namespace FieldGuard

/-- What a value must look like. -/
inductive Shape where
  /-- Any value. -/
  | any
  | boolean
  /-- Integers and doubles. -/
  | number
  | string
  | dateTime
  /-- A list whose items all have one shape. -/
  | array (item : Shape)
  /-- A document with exactly these fields. -/
  | object (fields : List (String × Shape))
  /-- A value of a shape, or null, or no value. -/
  | optional (inner : Shape)
deriving Inhabited

namespace Shape

mutual

/-- A shape as messages show it. -/
def text : Shape → String
  | any => "Any"
  | boolean => "Boolean"
  | number => "Number"
  | string => "String"
  | dateTime => "DateTime"
  | array item => "Array(" ++ item.text ++ ")"
  | object fields => "Object(\x7b" ++ fieldsText fields ++ "\x7d)"
  | optional inner => "Optional(" ++ inner.text ++ ")"

/-- Fields with commas between them. -/
def fieldsText : List (String × Shape) → String
  | [] => ""
  | [(key, shape)] => Text.Quoted.encode key ++ ": " ++ shape.text
  | (key, shape) :: rest =>
    Text.Quoted.encode key ++ ": " ++ shape.text ++ ", " ++ fieldsText rest

end

mutual

/-- The paths below a shape that stands at `path`, with the path itself where it is no
container or containers are asked for. -/
def pathsAt (containers : Bool) (path : String) : Shape → List String
  | object fields =>
    (if containers then [path] else []) ++ fieldPathsIn containers (some path) fields
  | optional inner => pathsAt containers path inner
  | _ => [path]

/-- The paths of the fields of a container. -/
def fieldPathsIn (containers : Bool) (container : Option String) :
    List (String × Shape) → List String
  | [] => []
  | (key, shape) :: rest =>
    pathsAt containers (Path.join container key) shape ++ fieldPathsIn containers container rest

end

/-- The paths of the fields of a shape, in the order of its fields; those of containers only if
asked for. -/
def fieldPaths (containers : Bool) : Shape → List String
  | object fields => fieldPathsIn containers none fields
  | optional inner => fieldPaths containers inner
  | _ => []

end Shape

end FieldGuard
