import FieldGuard.Pattern.Expr
import FieldGuard.Unicode.CaseFold
import FieldGuard.Unicode.Name

/-!
# Modes and escapes of pattern notation

`Modes` are the settings that a pattern switches on and off as it goes. `readEscape`
reads what follows a backslash, which means the same inside and outside of
brackets; what is not known is refused.
-/

namespace FieldGuard.Pattern

open Unicode (CharSet)

/-- The settings in force at a place of a pattern. -/
structure Modes where
  /-- `i`: letters stand for both cases. -/
  ignoreCase : Bool := false
  /-- `m`: `^` and `$` stand for the ends of lines. -/
  multiLine : Bool := false
  /-- `s`: a dot matches the end of a line too. -/
  dotAll : Bool := false
  /-- `R`: a carriage return ends a line too. -/
  anyLineEnd : Bool := false
  /-- `u`: classes hold characters of all scripts. -/
  unicode : Bool := true
  /-- `x`: blanks and comments mean nothing. -/
  spaced : Bool := false
deriving DecidableEq, Repr

/-- Whether the character is white space. -/
def isBlank (c : Char) : Bool :=
  Unicode.Property.whiteSpace.contains c

/-- Skips blanks and comments, the latter from `#` to the end of the line. -/
def skipSpaced (inComment : Bool) : List Char → List Char
  | [] => []
  | c :: rest =>
    if inComment then skipSpaced (c != '\n') rest
    else if isBlank c then skipSpaced false rest
    else if c = '#' then skipSpaced true rest
    else c :: rest

/-- Skips what means nothing in these modes. -/
def Modes.skip (modes : Modes) (rest : List Char) : List Char :=
  if modes.spaced then skipSpaced false rest else rest

/-- What an escape, or a character without one, stands for. -/
inductive Atom where
  /-- One character, spelled as a byte by two hexadecimal digits or not. -/
  | character (c : Char) (asByte : Bool)
  /-- A condition on the position. -/
  | look (condition : Look)
  /-- A class of characters. -/
  | set (characters : CharSet)

/-- The digits of ASCII. -/
def asciiDigits : CharSet := ⟨[(0x30, 0x39)]⟩

/-- The white space of ASCII. -/
def asciiBlanks : CharSet := ⟨[(0x09, 0x0D), (0x20, 0x20)]⟩

/-- The characters of words in ASCII. -/
def asciiWord : CharSet := ⟨[(0x30, 0x39), (0x41, 0x5A), (0x5F, 0x5F), (0x61, 0x7A)]⟩

/-- The characters of words in these modes. -/
def Modes.word (modes : Modes) : CharSet :=
  if modes.unicode then Unicode.Property.word else asciiWord

/-- The set, or what it does not hold. Outside of the Unicode mode that would hold bytes that
are no characters, so it is refused. -/
def Modes.negateIf? (modes : Modes) (negated : Bool) (set : CharSet) : Option CharSet :=
  if !negated then some set
  else if modes.unicode then some set.complement
  else none

/-- The set, in both cases if the case is to be ignored. -/
def Modes.foldCase (modes : Modes) (set : CharSet) : CharSet :=
  if !modes.ignoreCase then set
  else if modes.unicode then set.closeUnderCase
  else set.closeUnderAsciiCase

/-- The value of a hexadecimal digit. -/
def hexValue? (c : Char) : Option Nat :=
  if c.isDigit then some (c.toNat - '0'.toNat)
  else if 'a' ≤ c ∧ c ≤ 'f' then some (c.toNat - 'a'.toNat + 10)
  else if 'A' ≤ c ∧ c ≤ 'F' then some (c.toNat - 'A'.toNat + 10)
  else none

/-- The character of a code point. -/
def charOfCode? (code : Nat) : Option Char :=
  if h : code.isValidChar then some (Char.ofNatAux code h) else none

/-- Reads a given number of hexadecimal digits. -/
def readHexDigits (modes : Modes) (value : Nat) : Nat → List Char → Option (Nat × List Char)
  | 0, rest => some (value, rest)
  | _ + 1, [] => none
  | count + 1, c :: rest => do
    let digit ← hexValue? c
    readHexDigits modes (16 * value + digit) count (modes.skip rest)

/-- Reads hexadecimal digits up to a closing brace, at least one. The fuel bounds the
number of digits. -/
def readHexBraced (modes : Modes) (value count : Nat) : Nat → List Char → Option (Nat × List Char)
  | 0, _ => none
  | _ + 1, [] => none
  | fuel + 1, c :: rest =>
    if c = '\x7d' then if count = 0 then none else some (value, modes.skip rest)
    else do
      let digit ← hexValue? c
      readHexBraced modes (16 * value + digit) (count + 1) fuel (modes.skip rest)

/-- Reads the code point after `\x`, `\u` or `\U`: in braces, or in as many digits as the
letter says. -/
def readHexEscape (modes : Modes) (digits : Nat) (rest : List Char) :
    Option (Atom × List Char) := do
  match modes.skip rest with
  | '\x7b' :: rest =>
    let (code, rest) ← readHexBraced modes 0 0 (rest.length + 1) (modes.skip rest)
    return (.character (← charOfCode? code) false, rest)
  | rest =>
    let (code, rest) ← readHexDigits modes 0 digits rest
    return (.character (← charOfCode? code) (digits == 2), rest)

/-- Reads up to a closing brace. The fuel bounds the number of characters. -/
def readBraced (modes : Modes) : Nat → List Char → Option (List Char × List Char)
  | 0, _ => none
  | _ + 1, [] => none
  | fuel + 1, c :: rest =>
    if c = '\x7d' then some ([], rest)
    else (readBraced modes fuel (modes.skip rest)).map fun (name, rest) => (c :: name, rest)

/-- Splits a list at the first place where the separator stands. -/
def splitAtFirst (separator : List Char) : List Char → Option (List Char × List Char)
  | [] => none
  | c :: rest =>
    match separator.isPrefixOf? (c :: rest) with
    | some after => some ([], after)
    | none => (splitAtFirst separator rest).map fun (first, second) => (c :: first, second)

/-- The class that a name in braces stands for, and whether it is negated in there. -/
def namedClass? (name : List Char) : Option (CharSet × Bool) :=
  match splitAtFirst ['!', '='] name with
  | some (property, value) => (Unicode.valued? property value).map (·, true)
  | none =>
    match splitAtFirst [':'] name <|> splitAtFirst ['='] name with
    | some (property, value) => (Unicode.valued? property value).map (·, false)
    | none => (Unicode.named? name).map (·, false)

/-- Reads the class after `\p` or `\P`: one letter, or a name in braces. -/
def readUnicodeClass (modes : Modes) (negated : Bool) (rest : List Char) :
    Option (Atom × List Char) := do
  let (set, inverted, rest) ← match modes.skip rest with
    | '\x7b' :: rest => do
      let (name, rest) ← readBraced modes (rest.length + 1) (modes.skip rest)
      let (set, inverted) ← namedClass? name
      some (set, inverted, rest)
    | '\\' :: _ | [] => none
    | c :: rest => do some (← Unicode.named? [c], false, modes.skip rest)
  if !modes.unicode then none
  else
    let set ← modes.negateIf? (negated != inverted) (modes.foldCase set)
    return (.set set, rest)

/-- The class of digits, blanks or characters of words. -/
def Modes.shorthand? (modes : Modes) (unicode ascii : CharSet) (negated : Bool)
    (rest : List Char) : Option (Atom × List Char) :=
  (modes.negateIf? negated (if modes.unicode then unicode else ascii)).map (.set ·, rest)

/-- Reads the letters of the name after a word boundary and an opening brace. The fuel bounds
their number. -/
def readBoundaryName (modes : Modes) : Nat → List Char → Option (List Char × List Char)
  | 0, _ => none
  | _ + 1, [] => none
  | fuel + 1, c :: rest =>
    if c.isAlpha || c == '-' then
      (readBoundaryName modes fuel (modes.skip rest)).map fun (name, rest) => (c :: name, rest)
    else if c = '\x7d' then some ([], rest)
    else none

/-- Reads a word boundary after `\b`. A brace that does not start the name of a side belongs to
a repetition. -/
def readBoundary (modes : Modes) (rest : List Char) : Option (Atom × List Char) :=
  let plain := some (.look (.word .boundary modes.word), rest)
  match rest with
  | '\x7b' :: inside =>
    match modes.skip inside with
    | [] => none
    | c :: more =>
      if c.isAlpha || c == '-' then do
        let (name, rest) ← readBoundaryName modes (more.length + 2) (c :: more)
        let side ← match String.ofList name with
          | "start" => some WordSide.start
          | "end" => some .stop
          | "start-half" => some .startHalf
          | "end-half" => some .stopHalf
          | _ => none
        return (.look (.word side modes.word), rest)
      else plain
  | _ => plain

/-- The characters that mean something unescaped, in or out of brackets. -/
def metaCharacters : List Char :=
  ['\\', '.', '+', '*', '?', '(', ')', '|', '[', ']', '\x7b', '\x7d', '^', '$', '#', '&', '-', '~']

/-- Whether a backslash may stand before the character without changing it. -/
def isEscapable (c : Char) : Bool :=
  metaCharacters.contains c || (c.toNat ≤ 0x7F && !c.isAlphanum && c != '<' && c != '>')

/-- Reads what follows a backslash. -/
def readEscape (modes : Modes) : List Char → Option (Atom × List Char)
  | [] => none
  | c :: rest =>
    match c with
    | 'x' => readHexEscape modes 2 rest
    | 'u' => readHexEscape modes 4 rest
    | 'U' => readHexEscape modes 8 rest
    | 'p' => readUnicodeClass modes false rest
    | 'P' => readUnicodeClass modes true rest
    | 'd' => modes.shorthand? Unicode.Property.digit asciiDigits false rest
    | 'D' => modes.shorthand? Unicode.Property.digit asciiDigits true rest
    | 's' => modes.shorthand? Unicode.Property.space asciiBlanks false rest
    | 'S' => modes.shorthand? Unicode.Property.space asciiBlanks true rest
    | 'w' => modes.shorthand? Unicode.Property.word asciiWord false rest
    | 'W' => modes.shorthand? Unicode.Property.word asciiWord true rest
    | 'a' => some (.character '\x07' false, rest)
    | 'f' => some (.character '\x0c' false, rest)
    | 't' => some (.character '\t' false, rest)
    | 'n' => some (.character '\n' false, rest)
    | 'r' => some (.character '\r' false, rest)
    | 'v' => some (.character '\x0b' false, rest)
    | 'A' => some (.look .textStart, rest)
    | 'z' => some (.look .textEnd, rest)
    | 'b' => readBoundary modes rest
    | 'B' => some (.look (.word .noBoundary modes.word), rest)
    | '<' => some (.look (.word .start modes.word), rest)
    | '>' => some (.look (.word .stop modes.word), rest)
    | c => if isEscapable c then some (.character c false, rest) else none

/-- The set that one character stands for outside of brackets. A byte above ASCII is no
character. -/
def Modes.literal? (modes : Modes) (c : Char) (asByte : Bool) : Option CharSet :=
  if !modes.unicode && asByte && c.toNat > 0x7F then none
  else if !modes.unicode && c.toNat > 0x7F then some (CharSet.singleton c)
  else some (modes.foldCase (CharSet.singleton c))

end FieldGuard.Pattern
