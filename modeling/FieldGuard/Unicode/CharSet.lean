/-!
# Sets of code points

A `CharSet` is a list of spans of code points, increasing and with gaps between
them. Every operation ends in `CharSet.ofRanges`, which sorts spans and joins those
that touch. Surrogates are not characters: a complement never holds them.
-/

namespace FieldGuard.Unicode

/-- A set of code points as spans, first and last included. -/
structure CharSet where
  /-- The spans, increasing and with gaps between them. -/
  ranges : List (Nat × Nat)
deriving DecidableEq, Inhabited

namespace CharSet

/-- Joins the spans that touch `first … last`, in a list that increases. -/
def joinFrom (first last : Nat) : List (Nat × Nat) → List (Nat × Nat)
  | [] => [(first, last)]
  | (low, high) :: rest =>
    if low ≤ last + 1 then joinFrom first (max last high) rest
    else (first, last) :: joinFrom low high rest

/-- The set covered by some spans, given in any order. -/
def ofRanges (ranges : List (Nat × Nat)) : CharSet :=
  match ranges.mergeSort (fun a b => a.1 ≤ b.1) with
  | [] => ⟨[]⟩
  | (first, last) :: rest => ⟨joinFrom first last rest⟩

/-- The value of a number in hexadecimal. -/
def readHex (text : String) : Nat :=
  text.toList.foldl
    (fun n c => 16 * n + (if c.isDigit then c.toNat - '0'.toNat else c.toNat - 'A'.toNat + 10)) 0

/-- The set that lines of spans describe: code points and spans of them, in
hexadecimal and separated by blanks. -/
def ofText (lines : List String) : CharSet :=
  ofRanges <| (lines.flatMap (·.splitOn " ")).map fun span =>
    match span.splitOn "-" with
    | [first, last] => (readHex first, readHex last)
    | _ => (readHex span, readHex span)

/-- The set of one character. -/
def singleton (c : Char) : CharSet :=
  ⟨[(c.toNat, c.toNat)]⟩

/-- The set without characters. -/
def empty : CharSet := ⟨[]⟩

/-- The characters of ASCII. -/
def ascii : CharSet := ⟨[(0, 0x7F)]⟩

/-- Every character. -/
def all : CharSet := ⟨[(0, 0xD7FF), (0xE000, 0x10FFFF)]⟩

/-- Whether a code point belongs to the set. -/
def containsCode (s : CharSet) (code : Nat) : Bool :=
  s.ranges.any fun span => span.1 ≤ code && code ≤ span.2

/-- Whether a character belongs to the set. -/
def contains (s : CharSet) (c : Char) : Bool :=
  s.containsCode c.toNat

/-- What either set holds. -/
def union (s t : CharSet) : CharSet :=
  ofRanges (s.ranges ++ t.ranges)

/-- What one of the sets holds. -/
def unions (sets : List CharSet) : CharSet :=
  ofRanges (sets.flatMap (·.ranges))

/-- The gaps between increasing spans, from `start` on. -/
def gapsFrom (start : Nat) : List (Nat × Nat) → List (Nat × Nat)
  | [] => if start ≤ 0x10FFFF then [(start, 0x10FFFF)] else []
  | (first, last) :: rest =>
    if start < first then (start, first - 1) :: gapsFrom (last + 1) rest
    else gapsFrom (last + 1) rest

/-- Every character that the set does not hold. -/
def complement (s : CharSet) : CharSet :=
  ⟨gapsFrom 0 (ofRanges ((0xD800, 0xDFFF) :: s.ranges)).ranges⟩

/-- What both sets hold. -/
def inter (s t : CharSet) : CharSet :=
  (s.complement.union t.complement).complement

/-- What the first set holds and the second does not. -/
def difference (s t : CharSet) : CharSet :=
  s.inter t.complement

/-- What exactly one of the sets holds. -/
def symmetricDifference (s t : CharSet) : CharSet :=
  (s.union t).difference (s.inter t)

/-- Whether the set holds nothing but ASCII. -/
def isAscii (s : CharSet) : Bool :=
  s.ranges.all (·.2 ≤ 0x7F)

end CharSet

end FieldGuard.Unicode
