import FieldGuard.Pattern.Bracket

/-!
# Reading pattern notation

`Expr.ofNotation?` reads a pattern in one pass. The groups that are still open wait on
a stack of `Level`s, each with what it interrupts and with the modes that its end
restores. Notation is refused if it is malformed or nests deeper than `depthLimit`.
-/

namespace FieldGuard.Pattern

open Unicode (CharSet)

/-- An expression with the nesting depth of its notation. -/
structure Node where
  expr : Expr
  depth : Nat := 0
  /-- Whether a repetition may follow. A change of modes cannot be repeated. -/
  repeatable : Bool := true

/-- A branch: items one after the other, given last first. -/
def branchOf : List Node → Node
  | [] => { expr := .empty }
  | [node] => node
  | items =>
    { expr := Expr.sequence (items.reverse.map (·.expr)),
      depth := items.foldl (fun d node => max d node.depth) 0 + 1 }

/-- Alternatives, given last first. -/
def alternativesOf : List Node → Node
  | [] => { expr := .empty }
  | [node] => node
  | branches =>
    { expr := Expr.anyOf (branches.reverse.map (·.expr)),
      depth := branches.foldl (fun d node => max d node.depth) 0 + 1 }

/-- An open group, with what it interrupts. -/
structure Level where
  /-- The modes that the end of the group restores. -/
  modes : Modes
  /-- The items before the group in its branch, last first. -/
  items : List Node
  /-- The branches before that one, last first. -/
  branches : List Node
  /-- Whether the match of the group is kept apart. -/
  captures : Bool

/-- The state of reading. -/
structure State where
  modes : Modes := {}
  /-- The items of the present branch, last first. -/
  items : List Node := []
  /-- The branches before it, last first. -/
  branches : List Node := []
  /-- The open groups, innermost first. -/
  levels : List Level := []
  /-- The names of groups so far. -/
  names : List String := []

/-- Adds an item to the present branch. -/
def State.push (state : State) (node : Node) : State :=
  { state with items := node :: state.items }

/-- Ends the present branch. -/
def State.endBranch (state : State) : State :=
  { state with items := [], branches := branchOf state.items :: state.branches }

/-- What has been read at the present level. -/
def State.content (state : State) : Node :=
  alternativesOf state.endBranch.branches

/-- Opens a group, whose modes may differ from those around it. -/
def State.openGroup (state : State) (modes : Modes) (captures : Bool) : State :=
  { state with
    modes, items := [], branches := []
    levels := ⟨state.modes, state.items, state.branches, captures⟩ :: state.levels }

/-- Closes the innermost group. -/
def State.closeGroup? (state : State) : Option State :=
  match state.levels with
  | [] => none
  | level :: levels =>
    let content := state.content
    let expr := if level.captures then .group content.expr else content.expr
    some { state with
      modes := level.modes
      items := { expr, depth := content.depth + 1 } :: level.items
      branches := level.branches
      levels }

/-- Repeats the last item of the present branch. -/
def State.repeatLast? (state : State) (min : Nat) (max : Option Nat) : Option State :=
  match state.items with
  | [] => none
  | node :: items =>
    if node.repeatable then
      some { state with
        items := { expr := .repeated min max node.expr, depth := node.depth + 1 } :: items }
    else none

/-- Switches one mode. -/
def Modes.switch? (modes : Modes) (letter : Char) (on : Bool) : Option Modes :=
  match letter with
  | 'i' => some { modes with ignoreCase := on }
  | 'm' => some { modes with multiLine := on }
  | 's' => some { modes with dotAll := on }
  | 'R' => some { modes with anyLineEnd := on }
  | 'u' => some { modes with unicode := on }
  | 'x' => some { modes with spaced := on }
  | 'U' => some modes
  | _ => none

/-- Reads letters of modes up to `:` or `)`. Letters after a hyphen switch off; no letter and
no hyphen stands twice, and a hyphen needs a letter after it. -/
def readModes (modes : Modes) (seen : List Char) :
    List Char → Option (Modes × List Char × Bool × List Char)
  | [] => none
  | c :: rest =>
    if c = ':' ∨ c = ')' then
      if seen.head? = some '-' then none else some (modes, seen, c = ')', rest)
    else if seen.contains c then none
    else if c = '-' then readModes modes (c :: seen) rest
    else do
      let modes ← modes.switch? c (!seen.contains '-')
      readModes modes (c :: seen) rest

/-- Whether the character may stand in the name of a group, at its start or later. -/
def isNameCharacter (atStart : Bool) (c : Char) : Bool :=
  if atStart then c = '_' || Unicode.Property.alphabetic.contains c
  else c = '_' || c = '.' || c = '[' || c = ']' || Unicode.Property.alphabetic.contains c
    || Unicode.Category.number.contains c

/-- Reads the name of a group up to `>`. -/
def readGroupName (rest : List Char) : Option (String × List Char) :=
  match rest.dropWhile (· != '>') with
  | '>' :: after =>
    match rest.takeWhile (· != '>') with
    | first :: others =>
      if isNameCharacter true first && others.all (isNameCharacter false) then
        some (String.ofList (first :: others), after)
      else none
    | [] => none
  | _ => none

/-- Reads what follows an opening parenthesis: a name, modes for the group or from here on, or
nothing. Groups that look ahead or behind are refused. -/
def readOpenGroup (state : State) (rest : List Char) : Option (State × List Char) :=
  let named (rest : List Char) : Option (State × List Char) := do
    let (name, rest) ← readGroupName rest
    if state.names.contains name then none
    else return ({ state.openGroup state.modes true with names := name :: state.names }, rest)
  match state.modes.skip rest with
  | '?' :: '=' :: _ | '?' :: '!' :: _ | '?' :: '<' :: '=' :: _ | '?' :: '<' :: '!' :: _ => none
  | '?' :: 'P' :: '<' :: rest => named rest
  | '?' :: '<' :: rest => named rest
  | '?' :: rest => do
    let (modes, seen, closes, rest) ← readModes state.modes [] rest
    if closes then
      if seen.isEmpty then none
      else return ({ state with modes }.push { expr := .empty, repeatable := false }, rest)
    else return (state.openGroup modes false, rest)
  | rest => some (state.openGroup state.modes true, rest)

/-- Reads a decimal number with blanks around it, below 2^32. -/
def readCount (modes : Modes) (rest : List Char) : Option (Nat × List Char) :=
  let rec digits (value : Option Nat) : Nat → List Char → Option Nat × List Char
    | 0, rest => (value, rest)
    | _ + 1, [] => (value, [])
    | fuel + 1, c :: rest =>
      if c.isDigit then
        digits (some (10 * value.getD 0 + (c.toNat - '0'.toNat))) fuel (modes.skip rest)
      else (value, c :: rest)
  match digits none rest.length (rest.dropWhile isBlank) with
  | (some n, rest) => if n < UInt32.size then some (n, modes.skip (rest.dropWhile isBlank)) else none
  | (none, _) => none

/-- Skips a question mark, which makes a repetition reluctant. -/
def skipReluctance : List Char → List Char
  | '?' :: rest => rest
  | rest => rest

/-- Reads a counted repetition after its opening brace: a number, a least number, or both
bounds. -/
def readCounted (modes : Modes) (rest : List Char) :
    Option (Nat × Option Nat × List Char) := do
  let (min, rest) ← readCount modes (modes.skip rest)
  let (max, rest) ← match rest with
    | ',' :: rest =>
      match modes.skip rest with
      | '\x7d' :: rest => some (none, '\x7d' :: rest)
      | rest => do
        let (max, rest) ← readCount modes rest
        some (some max, rest)
    | rest => some (some min, rest)
  match rest with
  | '\x7d' :: rest =>
    if max.all (min ≤ ·) then return (min, max, skipReluctance (modes.skip rest)) else none
  | _ => none

/-- The condition of a caret in these modes. -/
def Modes.caret (modes : Modes) : Look :=
  if !modes.multiLine then .textStart else if modes.anyLineEnd then .anyLineStart else .lineStart

/-- The condition of a dollar sign in these modes. -/
def Modes.dollar (modes : Modes) : Look :=
  if !modes.multiLine then .textEnd else if modes.anyLineEnd then .anyLineEnd else .lineEnd

/-- What a dot matches in these modes. Outside of the Unicode mode it would match bytes that
are no characters. -/
def Modes.dot? (modes : Modes) : Option CharSet :=
  if !modes.unicode then none
  else if modes.dotAll then some .all
  else if modes.anyLineEnd then some (CharSet.complement ⟨[(0x0A, 0x0A), (0x0D, 0x0D)]⟩)
  else some (CharSet.complement ⟨[(0x0A, 0x0A)]⟩)

/-- The node of a single atom. -/
def Modes.atom? (modes : Modes) : Atom → Option Node
  | .character c asByte => (modes.literal? c asByte).map fun set => { expr := .oneOf set }
  | .look condition => some { expr := .look condition }
  | .set set => some { expr := .oneOf set }

/-- Reads one item and returns the state after it with the rest. -/
def readStep (state : State) : List Char → Option (State × List Char)
  | [] => none
  | c :: rest =>
    match c with
    | '(' => readOpenGroup state rest
    | ')' => do return (← state.closeGroup?, rest)
    | '|' => some (state.endBranch, rest)
    | '[' => do
      let (part, rest) ← readClass state.modes rest
      return (state.push { expr := .oneOf part.set, depth := part.depth }, rest)
    | '?' => do return (← state.repeatLast? 0 (some 1), skipReluctance rest)
    | '*' => do return (← state.repeatLast? 0 none, skipReluctance rest)
    | '+' => do return (← state.repeatLast? 1 none, skipReluctance rest)
    | '\x7b' => do
      let (min, max, rest) ← readCounted state.modes rest
      return (← state.repeatLast? min max, rest)
    | '\\' => do
      let (atom, rest) ← readEscape state.modes rest
      return (state.push (← state.modes.atom? atom), rest)
    | '.' => do return (state.push { expr := .oneOf (← state.modes.dot?) }, rest)
    | '^' => some (state.push { expr := .look state.modes.caret }, rest)
    | '$' => some (state.push { expr := .look state.modes.dollar }, rest)
    | c => do return (state.push (← state.modes.atom? (.character c false)), rest)

/-- Reads items up to the end. Every item takes at least one character, so the fuel bounds
their number. -/
def readAll : Nat → State → List Char → Option State
  | 0, _, _ => none
  | fuel + 1, state, rest =>
    match state.modes.skip rest with
    | [] => some state
    | rest => do
      let (state, rest) ← readStep state rest
      readAll fuel state rest

/-- How deep notation may nest. -/
def depthLimit : Nat := 250

/-- The expression that a pattern denotes, if its notation is in order. -/
def Expr.ofNotation? (source : String) : Option Expr := do
  let characters := source.toList
  let state ← readAll (characters.length + 1) {} characters
  if !state.levels.isEmpty then none
  else
    let node := state.content
    if node.depth ≤ depthLimit then return node.expr else none

end FieldGuard.Pattern
