import FieldGuard.Pattern.Expr

/-!
# Whether a text contains a match

A set of positions in a text is a number whose bit `i` says that position `i`, before
the character `i`, belongs to it. An expression carries the positions where a match
may start to those where it may end; a text contains a match if some position is
reached from all of them.
-/

namespace FieldGuard.Pattern

/-- The text that a pattern is matched against. -/
structure Subject where
  /-- Its characters. -/
  characters : Array Char

namespace Subject

/-- The number of characters. -/
def size (s : Subject) : Nat := s.characters.size

/-- The character before a position. -/
def before? (s : Subject) (position : Nat) : Option Char :=
  if position = 0 then none else s.characters[position - 1]?

/-- The character after a position. -/
def after? (s : Subject) (position : Nat) : Option Char :=
  s.characters[position]?

/-- The positions below `bound` with a property. -/
def positionsWhere (bound : Nat) (test : Nat → Bool) : Nat :=
  (List.range bound).foldl (fun set i => if test i then set ||| (1 <<< i) else set) 0

/-- All positions. -/
def allPositions (s : Subject) : Nat :=
  1 <<< (s.size + 1) - 1

end Subject

/-- Whether the condition holds between the two characters around a position. -/
def Look.holds (condition : Look) (before after : Option Char) : Bool :=
  match condition with
  | .textStart => before.isNone
  | .textEnd => after.isNone
  | .lineStart => before.isNone || before == some '\n'
  | .lineEnd => after.isNone || after == some '\n'
  | .anyLineStart =>
    before.isNone || before == some '\n' || (before == some '\r' && after != some '\n')
  | .anyLineEnd =>
    after.isNone || after == some '\r' || (after == some '\n' && before != some '\r')
  | .word side characters =>
    let inWord := fun c : Option Char => c.any characters.contains
    match side with
    | .boundary => inWord before != inWord after
    | .noBoundary => inWord before == inWord after
    | .start => !inWord before && inWord after
    | .stop => inWord before && !inWord after
    | .startHalf => !inWord before
    | .stopHalf => !inWord after

/-- Takes a step `count` times, or until it changes nothing. -/
def stepExactly (step : Nat → Nat) : Nat → Nat → Nat
  | 0, here => here
  | count + 1, here =>
    let next := step here
    if next = here then here else stepExactly step count next

/-- The positions reached by at most `count` steps. -/
def stepAtMost (step : Nat → Nat) : Nat → Nat → Nat
  | 0, here => here
  | count + 1, here =>
    let next := here ||| step here
    if next = here then here else stepAtMost step count next

/-- The positions where a match ends that starts at one of the positions `here`. A
position is reached by no more repetitions than there are positions, or by a bounded
number. -/
def Expr.advance (s : Subject) : Expr → Nat → Nat
  | .empty, here => here
  | .oneOf set, here =>
    (here &&& Subject.positionsWhere s.size fun i => (s.after? i).any set.contains) <<< 1
  | .look condition, here =>
    here &&& Subject.positionsWhere (s.size + 1) fun i => condition.holds (s.before? i) (s.after? i)
  | .concat first second, here => second.advance s (first.advance s here)
  | .either left right, here => left.advance s here ||| right.advance s here
  | .repeated min max body, here =>
    let start := stepExactly (fun p => body.advance s p) min here
    let more := match max with
      | none => s.size + 1
      | some m => m - min
    stepAtMost (fun p => body.advance s p) more start
  | .group body, here => body.advance s here

/-- Whether the text contains a match. -/
def Expr.matchesIn (e : Expr) (text : String) : Bool :=
  let s : Subject := ⟨text.toList.toArray⟩
  e.advance s s.allPositions != 0

end FieldGuard.Pattern
