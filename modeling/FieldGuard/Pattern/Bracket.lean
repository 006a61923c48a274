import FieldGuard.Pattern.Escape

/-!
# Bracketed classes

A bracketed class is a union of characters, spans, named classes and further
brackets, with `&&`, `--` and `~~` between unions, all binding alike and to the left. What
has been read so far of the outer classes waits on a stack of `Frame`s.
-/

namespace FieldGuard.Pattern

open Unicode (CharSet)

/-- A set with the nesting depth of its notation. -/
structure Part where
  set : CharSet
  depth : Nat

/-- The items of a union read so far. -/
structure Items where
  set : CharSet := .empty
  count : Nat := 0
  depth : Nat := 0

/-- Adds an item to a union. -/
def Items.push (items : Items) (part : Part) : Items :=
  ⟨items.set.union part.set, items.count + 1, max items.depth part.depth⟩

/-- A union as one part; only two items or more make it deeper. -/
def Items.toPart (items : Items) : Part :=
  ⟨items.set, if items.count ≤ 1 then items.depth else items.depth + 1⟩

/-- The operators between unions. -/
inductive SetOp where
  | intersection
  | difference
  | symmetricDifference

/-- What waits for the end of an inner class or of the right side of an operator. -/
inductive Frame where
  /-- An opened bracket, with the union around it. -/
  | opened (outer : Items) (negated : Bool)
  /-- An operator with its left side. -/
  | operator (op : SetOp) (left : Part)

/-- Applies the operator on top of the stack to the right side just read. -/
def applyOperator (modes : Modes) (frames : List Frame) (right : Part) : Part × List Frame :=
  match frames with
  | .operator op left :: frames =>
    let a := modes.foldCase left.set
    let b := modes.foldCase right.set
    let set := match op with
      | .intersection => a.inter b
      | .difference => a.difference b
      | .symmetricDifference => a.symmetricDifference b
    (⟨set, max left.depth right.depth + 1⟩, frames)
  | frames => (right, frames)

/-- Counts the hyphens a class starts with, which stand for themselves. The fuel bounds their
number. -/
def readHyphens (modes : Modes) (items : Items) : Nat → List Char → Items × List Char
  | 0, rest => (items, rest)
  | fuel + 1, rest =>
    match rest with
    | '-' :: rest => readHyphens modes (items.push ⟨.singleton '-', 0⟩) fuel (modes.skip rest)
    | rest => (items, rest)

/-- Reads the start of a class after its bracket: a caret that negates it, hyphens, and a
closing bracket that comes first and stands for itself. -/
def readOpening (modes : Modes) (rest : List Char) : Bool × Items × List Char :=
  let (negated, rest) := match modes.skip rest with
    | '^' :: rest => (true, modes.skip rest)
    | rest => (false, rest)
  let (items, rest) := readHyphens modes {} rest.length rest
  match rest with
  | ']' :: more =>
    if items.count = 0 then (negated, items.push ⟨.singleton ']', 0⟩, modes.skip more)
    else (negated, items, rest)
  | _ => (negated, items, rest)

/-- The classes of ASCII by name. -/
def asciiClass? (name : String) : Option CharSet :=
  match name with
  | "alnum" => some ⟨[(0x30, 0x39), (0x41, 0x5A), (0x61, 0x7A)]⟩
  | "alpha" => some ⟨[(0x41, 0x5A), (0x61, 0x7A)]⟩
  | "ascii" => some .ascii
  | "blank" => some ⟨[(0x09, 0x09), (0x20, 0x20)]⟩
  | "cntrl" => some ⟨[(0x00, 0x1F), (0x7F, 0x7F)]⟩
  | "digit" => some asciiDigits
  | "graph" => some ⟨[(0x21, 0x7E)]⟩
  | "lower" => some ⟨[(0x61, 0x7A)]⟩
  | "print" => some ⟨[(0x20, 0x7E)]⟩
  | "punct" => some ⟨[(0x21, 0x2F), (0x3A, 0x40), (0x5B, 0x60), (0x7B, 0x7E)]⟩
  | "space" => some asciiBlanks
  | "upper" => some ⟨[(0x41, 0x5A)]⟩
  | "word" => some asciiWord
  | "xdigit" => some ⟨[(0x30, 0x39), (0x41, 0x46), (0x61, 0x66)]⟩
  | _ => none

/-- Reads a named class of ASCII after a bracket: `:name:]` or `:^name:]`. Anything else is the
start of a class within the class. -/
def readAsciiClass (rest : List Char) : Option (CharSet × Bool × List Char) :=
  match rest with
  | ':' :: rest =>
    let (negated, rest) := match rest with
      | '^' :: rest => (true, rest)
      | rest => (false, rest)
    match rest.dropWhile (· != ':') with
    | ':' :: ']' :: after =>
      (asciiClass? (String.ofList (rest.takeWhile (· != ':')))).map (·, negated, after)
    | _ => none
  | _ => none

/-- The next character that means something, past blanks and comments. -/
def peekPast (inComment : Bool) : List Char → Option Char
  | [] => none
  | c :: rest =>
    if isBlank c then peekPast inComment rest
    else if !inComment && c == '#' then peekPast true rest
    else some c

/-- The character after a hyphen. -/
def Modes.peek (modes : Modes) (rest : List Char) : Option Char :=
  if modes.spaced then peekPast false rest else rest.head?

/-- Reads one character or escape of a class. -/
def readClassAtom (modes : Modes) : List Char → Option (Atom × List Char)
  | [] => none
  | '\\' :: rest => readEscape modes rest
  | c :: rest => some (.character c false, rest)

/-- The code point of one end of a span. Outside of the Unicode mode it must be one of
ASCII. -/
def Modes.spanEnd? (modes : Modes) : Atom → Option Char
  | .character c _ => if modes.unicode || c.toNat ≤ 0x7F then some c else none
  | _ => none

/-- Reads one item of a class: a class of its own, a character, or a span of characters. -/
def readItem (modes : Modes) (rest : List Char) : Option (CharSet × List Char) := do
  let (atom, rest) ← readClassAtom modes rest
  let single : Option CharSet := match atom with
    | .set set => some set
    | atom => (modes.spanEnd? atom).map CharSet.singleton
  match modes.skip rest with
  | [] => none
  | '-' :: more =>
    if modes.peek more == some ']' || modes.peek more == some '-' then
      return (← single, '-' :: more)
    else
      let (upper, rest) ← readClassAtom modes (modes.skip more)
      let first ← modes.spanEnd? atom
      let last ← modes.spanEnd? upper
      if first ≤ last then return (⟨[(first.toNat, last.toNat)]⟩, rest) else none
  | rest => return (← single, rest)

/-- Reads a class up to the bracket that closes the outermost one. Every step takes at least
one character, so the fuel bounds their number. -/
def readClassFrom (modes : Modes) : Nat → List Frame → Items → List Char →
    Option (Part × List Char)
  | 0, _, _, _ => none
  | fuel + 1, frames, items, rest =>
    match modes.skip rest with
    | [] => none
    | '[' :: rest =>
      match readAsciiClass rest with
      | some (set, negated, rest) => do
        let set ← modes.negateIf? negated (modes.foldCase set)
        readClassFrom modes fuel frames (items.push ⟨set, 0⟩) rest
      | none =>
        let (negated, inner, rest) := readOpening modes rest
        readClassFrom modes fuel (.opened items negated :: frames) inner rest
    | ']' :: rest => do
      match applyOperator modes frames items.toPart with
      | (part, .opened outer negated :: frames) =>
        let set ← modes.negateIf? negated (modes.foldCase part.set)
        let bracket : Part := ⟨set, part.depth + 1⟩
        if frames.isEmpty then return (bracket, rest)
        else readClassFrom modes fuel frames (outer.push bracket) rest
      | _ => none
    | '&' :: '&' :: rest =>
      let (left, frames) := applyOperator modes frames items.toPart
      readClassFrom modes fuel (.operator .intersection left :: frames) {} rest
    | '-' :: '-' :: rest =>
      let (left, frames) := applyOperator modes frames items.toPart
      readClassFrom modes fuel (.operator .difference left :: frames) {} rest
    | '~' :: '~' :: rest =>
      let (left, frames) := applyOperator modes frames items.toPart
      readClassFrom modes fuel (.operator .symmetricDifference left :: frames) {} rest
    | rest => do
      let (set, rest) ← readItem modes rest
      readClassFrom modes fuel frames (items.push ⟨set, 0⟩) rest

/-- Reads a class after its opening bracket. -/
def readClass (modes : Modes) (rest : List Char) : Option (Part × List Char) :=
  let (negated, items, rest) := readOpening modes rest
  readClassFrom modes (rest.length + 1) [.opened {} negated] items rest

end FieldGuard.Pattern
