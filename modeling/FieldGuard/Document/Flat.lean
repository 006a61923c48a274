import FieldGuard.Path
import FieldGuard.Value

/-!
# Flat documents

A document and its leaves: `flatten` lists every leaf under its dotted path, `nest` builds a
document from such a list. A leaf is any value but a document with fields. In between stand
`assign`, which writes a value at a path, and `lookup?`, which reads one.
-/

namespace FieldGuard

namespace Value

mutual

/-- The leaves of a value that stands at `path`. -/
def leaves (path : String) : Value → List (String × Value)
  | document [] => [(path, document [])]
  | document (field :: fields) => fieldLeaves (some path) (field :: fields)
  | value => [(path, value)]

/-- The leaves of the fields of a container. -/
def fieldLeaves (container : Option String) : List (String × Value) → List (String × Value)
  | [] => []
  | (key, value) :: rest => leaves (Path.join container key) value ++ fieldLeaves container rest

end

end Value

namespace Document

/-- The leaves of a document under their paths, in order. Two leaves under one path, which only
names with dots can bring about, become one: the later value at the earlier place. -/
def flatten (d : Document) : Document :=
  Dict.ofList (Value.fieldLeaves none d)

/-- The fields of the document under `key`; none where there is no document. -/
def child (d : Document) (key : String) : Document :=
  match Dict.get? d key with
  | some (.document fields) => fields
  | _ => []

/-- Writes `value` at the place given by segments, making documents of what stands in the
way. -/
def assignAt (d : Document) : List String → Value → Document
  | [], _ => d
  | [key], value => Dict.insert d key value
  | key :: rest, value => Dict.insert d key (.document (assignAt (child d key) rest value))

/-- Writes `value` at `path`, making documents of what stands in the way. -/
def assign (d : Document) (path : String) (value : Value) : Document :=
  assignAt d (Path.segments path) value

/-- The document with the given leaves, written one after the other. -/
def nest (flat : Document) : Document :=
  flat.foldl (fun d leaf => assign d leaf.1 leaf.2) []

/-- The value at the place given by segments. -/
def lookupAt? (d : Document) : List String → Option Value
  | [] => none
  | key :: rest =>
    match Dict.get? d (Path.ofSegments (key :: rest)) with
    | some value => some value
    | none =>
      match rest with
      | [] => none
      | next :: more =>
        match Dict.get? d key with
        | some (.document fields) => lookupAt? fields (next :: more)
        | _ => none

/-- The value at `path`. A field whose name is all of the path, or of what is left of it, is
preferred over a field inside a document. -/
def lookup? (d : Document) (path : String) : Option Value :=
  lookupAt? d (Path.segments path)

/-- Whether the document holds a leaf at or below `path`. -/
def holdsWithin (flat : Document) (path : String) : Bool :=
  (Dict.keys flat).any fun key => Path.isWithin key path

/-- The leaves outside of all the paths. -/
def withoutPaths (flat : Document) (paths : List String) : Document :=
  flat.filter fun leaf => !Path.isWithinAny leaf.1 paths

/-- The document without what stands at or below the paths. -/
def redact (d : Document) (paths : List String) : Document :=
  if paths.isEmpty then d else nest (withoutPaths (flatten d) paths)

end Document

end FieldGuard
