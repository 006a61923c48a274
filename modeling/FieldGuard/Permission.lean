import FieldGuard.Dict.Sorted
import FieldGuard.Path

/-!
# Permissions

Each field of a record has a `Triple`: the tokens that reading, updating and removing it require.
The `Twin` of a record holds the triples of its field paths; a triple at a path also guards
everything below it.
-/

namespace FieldGuard

/-- The kinds of operations that are checked. -/
inductive Operation where
  | read
  | update
  | remove
deriving DecidableEq, Repr, Inhabited

/-- The tokens that a field requires. No tokens: the operation is open to everyone. -/
structure Triple where
  read : List String := []
  update : List String := []
  remove : List String := []
deriving DecidableEq, Repr, Inhabited

namespace Triple

/-- The tokens that an operation requires. -/
def required (triple : Triple) : Operation → List String
  | .read => triple.read
  | .update => triple.update
  | .remove => triple.remove

/-- Whether no operation requires any token. -/
def isOpen (triple : Triple) : Bool :=
  triple.read.isEmpty && triple.update.isEmpty && triple.remove.isEmpty

end Triple

/-- The permissions of one record. -/
structure Twin where
  /-- The identifier of the record. -/
  id : String
  /-- The triples of its field paths. -/
  fields : SortedDict Triple
deriving DecidableEq

namespace Twin

/-- The permissions of a record without any triple. -/
def empty (id : String) : Twin :=
  ⟨id, .empty⟩

/-- Gives a path a triple, in place of any earlier one. -/
def set (twin : Twin) (path : String) (triple : Triple) : Twin :=
  { twin with fields := twin.fields.insert path triple }

/-- The triple of a path. -/
def get? (twin : Twin) (path : String) : Option Triple :=
  twin.fields.get? path

/-- Whether no path requires any token for any operation. -/
def isOpen (twin : Twin) : Bool :=
  twin.fields.entries.all (·.2.isOpen)

end Twin

end FieldGuard
