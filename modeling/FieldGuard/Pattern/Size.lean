import FieldGuard.Pattern.Expr

/-!
# The size of a pattern

A pattern whose automaton over the bytes of UTF-8 takes more than ten mebibytes is
refused. A state takes 32 bytes, an alternative of a state four, and a span of bytes
eight. A set of characters is the trie of the byte sequences that spell it, read from the
first byte on: one state for each span of bytes after each beginning.
-/

namespace FieldGuard.Pattern

open Unicode (CharSet)

/-- The number of bytes of a code point in UTF-8. -/
def utf8Length (code : Nat) : Nat :=
  if code ≤ 0x7F then 1 else if code ≤ 0x7FF then 2 else if code ≤ 0xFFFF then 3 else 4

/-- The bytes of a code point in UTF-8. -/
def utf8Bytes (code : Nat) : List Nat :=
  match utf8Length code with
  | 1 => [code]
  | 2 => [0xC0 + code / 0x40, 0x80 + code % 0x40]
  | 3 => [0xE0 + code / 0x1000, 0x80 + code / 0x40 % 0x40, 0x80 + code % 0x40]
  | _ => [0xF0 + code / 0x40000, 0x80 + code / 0x1000 % 0x40, 0x80 + code / 0x40 % 0x40,
      0x80 + code % 0x40]

/-- Cuts spans of code points at a bound, so that none holds both `bound` and
`bound + 1`. -/
def cutAfter (bound : Nat) (spans : List (Nat × Nat)) : List (Nat × Nat) :=
  spans.flatMap fun (first, last) =>
    if first ≤ bound && bound < last then [(first, bound), (bound + 1, last)] else [(first, last)]

/-- Cuts a span so that the last six bits times `level` of its ends run through all
values, or the rest of the bits is equal. -/
def cutAligned (level : Nat) (spans : List (Nat × Nat)) : List (Nat × Nat) :=
  let unit := 1 <<< (6 * level)
  spans.flatMap fun (first, last) =>
    if last ≤ 0x7F || first / unit = last / unit then [(first, last)]
    else
      let low := if first % unit = 0 then first else (first / unit + 1) * unit
      let high := if last % unit = unit - 1 then last + 1 else last / unit * unit
      (if first < low then [(first, low - 1)] else []) ++
      (if low < high then [(low, high - 1)] else []) ++
      (if high ≤ last then [(high, last)] else [])

/-- The sequences of spans of bytes that spell the characters of a set. -/
def byteSpans (set : CharSet) : List (List (Nat × Nat)) :=
  let spans := cutAfter 0xFFFF (cutAfter 0x7FF (cutAfter 0x7F (cutAfter 0xDFFF (cutAfter 0xD7FF
    set.ranges))))
  let spans := spans.filter fun (first, _) => first < 0xD800 || 0xDFFF < first
  (cutAligned 3 (cutAligned 2 (cutAligned 1 spans))).map fun (first, last) =>
    (utf8Bytes first).zip (utf8Bytes last)

/-- The number of spans that a sequence shares with the one before from the start on. -/
def sharedSpans : List (Nat × Nat) → List (Nat × Nat) → Nat
  | a :: as, b :: bs => if a = b then sharedSpans as bs + 1 else 0
  | _, _ => 0

/-- The states of the trie of byte sequences given in order. -/
def trieStates (previous : List (Nat × Nat)) : List (List (Nat × Nat)) → Nat
  | [] => 0
  | sequence :: rest => sequence.length - sharedSpans previous sequence + trieStates sequence rest

/-- The size of a set of characters. -/
def setSize (set : CharSet) : Nat :=
  match set.ranges with
  | [(first, last)] => if first = last then 32 * utf8Length first else sizeOfSpans
  | _ => sizeOfSpans
where
  /-- The size of a set of more than one character. -/
  sizeOfSpans : Nat :=
    if set.isAscii then 64 + 8 * set.ranges.length
    else
      let sequences := byteSpans set
      64 + 4 * sequences.length + 32 * trieStates [] sequences

/-- Whether the expression matches nothing but the empty text. -/
def Expr.onlyEmpty : Expr → Bool
  | .empty | .look _ => true
  | .oneOf _ => false
  | .concat first second => first.onlyEmpty && second.onlyEmpty
  | .either left right => left.onlyEmpty && right.onlyEmpty
  | .repeated _ max body => max = some 0 || body.onlyEmpty
  | .group body => body.onlyEmpty

/-- The size of the automaton of an expression. A bounded repetition is written out,
each optional copy behind a choice; one of the empty text is written once. -/
def Expr.size : Expr → Nat
  | .empty | .look _ => 32
  | .oneOf set => setSize set
  | .concat first second => first.size + second.size
  | .either left right => left.size + right.size + 36
  | .repeated min max body =>
    if body.onlyEmpty then body.size + 72
    else match max with
      | none => (Nat.max min 1) * body.size + 40
      | some m => min * body.size + (m - min) * (body.size + 40) + 32
  | .group body => body.size + 64

/-- The size up to which a pattern is accepted. -/
def sizeLimit : Nat := 10 * 1024 * 1024

end FieldGuard.Pattern
