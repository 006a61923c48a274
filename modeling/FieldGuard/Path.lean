/-!
# Field paths

A path is a text whose segments, separated by dots, are field names from the outside to the
inside. Segments may be empty. `isWithin` is the order of paths: a path is within those that
start it, segment by segment.
-/

namespace FieldGuard

namespace Path

/-- The segments of a list of characters; there is at least one. -/
def splitDots : List Char → List (List Char)
  | [] => [[]]
  | c :: rest =>
    if c = '.' then [] :: splitDots rest
    else match splitDots rest with
      | segment :: segments => (c :: segment) :: segments
      | [] => [[c]]

/-- The segments of a path, from the outside to the inside; there is at least one. -/
def segments (path : String) : List String :=
  (splitDots path.toList).map String.ofList

/-- The path of a list of segments. -/
def ofSegments : List String → String
  | [] => ""
  | [segment] => segment
  | segment :: rest => segment ++ "." ++ ofSegments rest

/-- Whether `path` is `parent` or lies below it. -/
def isWithin (path parent : String) : Bool :=
  match parent.toList.isPrefixOf? path.toList with
  | some [] => true
  | some (c :: _) => c = '.'
  | none => false

/-- The path of a field inside the container at `container`, or at the top. -/
def join (container : Option String) (key : String) : String :=
  match container with
  | some path => path ++ "." ++ key
  | none => key

/-- Whether one of the paths holds `path`. -/
def isWithinAny (path : String) (parents : List String) : Bool :=
  parents.any (isWithin path)

/-- The nonempty lists of segments that start a list without being all of it. -/
def properStarts : List String → List (List String)
  | [] => []
  | [_] => []
  | segment :: rest => [segment] :: (properStarts rest).map (segment :: ·)

/-- The containers of a path, from the outside to the inside. -/
def ancestors (path : String) : List String :=
  (properStarts (segments path)).map ofSegments

end Path

end FieldGuard
