import FieldGuard.Document.Flat

/-!
# Projection

A projection keeps the leaves at or below some of the paths asked for. Asking for nothing
keeps everything.
-/

namespace FieldGuard

namespace Path

/-- Adds a path to a list that does not hold it yet. -/
def addNew (paths : List String) (path : String) : List String :=
  if paths.contains path then paths else paths ++ [path]

/-- The paths that lie below no other one, each once, in order of first appearance. -/
def outermost (paths : List String) : List String :=
  paths.foldl
    (fun kept path =>
      if paths.any fun other => other != path && isWithin path other then kept
      else addNew kept path)
    []

end Path

namespace Document

/-- The leaves at or below one of the paths. -/
def projectFlat (flat : Document) (paths : List String) : Document :=
  if paths.isEmpty then flat
  else
    let roots := Path.outermost paths
    flat.filter fun leaf => Path.isWithinAny leaf.1 roots

/-- The document restricted to what stands at or below one of the paths. -/
def project (d : Document) (paths : List String) : Document :=
  if paths.isEmpty then d else nest (projectFlat (flatten d) paths)

end Document

end FieldGuard
