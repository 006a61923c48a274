import FieldGuard.Pattern.Matching
import FieldGuard.Pattern.Notation
import FieldGuard.Pattern.Size

/-!
# Patterns

A pattern is a text that is in order, with the expression that it denotes.
-/

namespace FieldGuard

/-- A pattern that texts can be matched against. -/
structure Pattern where
  /-- The text of the pattern. -/
  source : String
  /-- What it denotes. -/
  expr : Pattern.Expr
deriving DecidableEq

namespace Pattern

/-- The pattern of a text. Malformed notation is refused, and so is an expression whose
automaton grows too large. -/
def ofText? (source : String) : Option Pattern := do
  let expr ← Expr.ofNotation? source
  if expr.size ≤ sizeLimit then return ⟨source, expr⟩ else none

/-- Whether the text contains a match of the pattern. -/
def matchesIn (p : Pattern) (text : String) : Bool :=
  p.expr.matchesIn text

end Pattern

end FieldGuard
