import FieldGuard.Unicode.Property

/-!
# Pattern expressions

What a pattern means, once its notation is read: sets of characters, conditions on a
position, and their sequences, alternatives and repetitions. Which of several matches
is found does not show in the answer whether there is one, so greediness is not kept.
-/

namespace FieldGuard.Pattern

open Unicode (CharSet)

/-- The conditions on the words around a position. -/
inductive WordSide where
  /-- A word starts or ends here. -/
  | boundary
  /-- No word starts or ends here. -/
  | noBoundary
  /-- A word starts here. -/
  | start
  /-- A word ends here. -/
  | stop
  /-- No word character stands before. -/
  | startHalf
  /-- No word character stands after. -/
  | stopHalf
deriving DecidableEq, Repr

/-- A condition on a position in a text. -/
inductive Look where
  | textStart
  | textEnd
  /-- After a line feed or at the start of the text. -/
  | lineStart
  /-- Before a line feed or at the end of the text. -/
  | lineEnd
  /-- As `lineStart`, where a carriage return also ends a line, alone or before a line
  feed. -/
  | anyLineStart
  /-- As `lineEnd`, where a carriage return also ends a line, alone or before a line
  feed. -/
  | anyLineEnd
  /-- A condition on words, made of the characters given. -/
  | word (side : WordSide) (characters : CharSet)
deriving DecidableEq

/-- A pattern expression. -/
inductive Expr where
  /-- Matches the empty text. -/
  | empty
  /-- Matches one character of the set. -/
  | oneOf (set : CharSet)
  /-- Matches the empty text where the condition holds. -/
  | look (condition : Look)
  | concat (first second : Expr)
  | either (left right : Expr)
  /-- Between `min` and `max` repetitions, without an upper bound for none. -/
  | repeated (min : Nat) (max : Option Nat) (body : Expr)
  /-- A group whose match is kept apart. -/
  | group (body : Expr)
deriving DecidableEq

/-- A set of alternatives: the first that matches, or any other. -/
def Expr.anyOf : List Expr → Expr
  | [] => .empty
  | [e] => e
  | e :: rest => .either e (anyOf rest)

/-- Expressions one after the other. -/
def Expr.sequence : List Expr → Expr
  | [] => .empty
  | [e] => e
  | e :: rest => .concat e (sequence rest)

end FieldGuard.Pattern
