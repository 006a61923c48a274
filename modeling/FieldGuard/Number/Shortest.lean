import FieldGuard.Number.Binary

/-!
# The shortest decimal text of a double

Of the decimal numbers that round to a double, the text shows one with the fewest
digits, and of those the one nearest to the double, the larger of two that are equally
near. It is written positionally, however large or small, with a point only where
digits follow it.
-/

namespace FieldGuard

namespace Number

/-- Digits with the place of the point: the number `0.d₁d₂… * 10^point`. -/
structure Digits where
  /-- The digits as one whole number. -/
  value : Nat
  /-- How many digits stand before the point. -/
  point : Int
deriving Repr, DecidableEq

/-- The numerator and the denominator of a power of a base. -/
def powerFraction (base : Nat) (exponent : Int) : Nat × Nat :=
  (base.pow exponent.toNat, base.pow (-exponent).toNat)

/-- Whether `candidate * 10^scale` rounds to the double `m * 2^q`. The interval
that does reaches half a unit up and half a unit down, a quarter unit down if
`m` is the smallest significand of its exponent, and its ends belong to it if `m` is
even. -/
def roundsTo (m : Nat) (q : Int) (candidate : Nat) (scale : Int) : Bool :=
  let (tenUp, tenDown) := powerFraction 10 scale
  let (twoUp, twoDown) := powerFraction 2 (q - 2)
  let shown := candidate * tenUp * twoDown
  let unit := twoUp * tenDown
  let below := if m = 1 <<< 52 ∧ q > -1074 then 1 else 2
  let low := (4 * m - below) * unit
  let high := (4 * m + 2) * unit
  if m % 2 = 0 then low ≤ shown ∧ shown ≤ high else low < shown ∧ shown < high

/-- The whole part of `m * 2^q / 10^scale` and whether the rest is below one half,
one half or above. -/
def divideAt (m : Nat) (q scale : Int) : Nat × Ordering :=
  let (twoUp, twoDown) := powerFraction 2 q
  let (tenUp, tenDown) := powerFraction 10 scale
  let numerator := m * twoUp * tenDown
  let denominator := twoDown * tenUp
  (numerator / denominator, compare (2 * (numerator % denominator)) denominator)

/-- The nearest number to `m * 2^q` on the grid of `10^scale` that rounds to it, if
one of its two neighbours there does; the upper one if both do and are equally near. -/
def onGrid? (m : Nat) (q scale : Int) : Option Nat :=
  let (low, half) := divideAt m q scale
  let lowHits := low ≠ 0 ∧ roundsTo m q low scale
  let highHits := roundsTo m q (low + 1) scale
  if lowHits ∧ (half = .lt ∨ ¬ highHits) then some low
  else if highHits then some (low + 1)
  else none

/-- The number of decimal digits. -/
def digitCount (n : Nat) : Nat :=
  (Nat.toDigits 10 n).length

/-- How many decimal digits stand before the point of `m * 2^q`; at most zero below
one tenth. -/
def magnitude (m : Nat) (q : Int) : Int :=
  let (up, down) := powerFraction 2 q
  let whole := m * up / down
  if whole ≠ 0 then digitCount whole
  else 1 - (digitCount (down / (m * up)) : Int)

/-- Tries the grids of 1, 2, … digits, coarsest first. -/
def shortestFrom (m : Nat) (q : Int) (scale : Int) : Nat → Digits
  | 0 => ⟨(divideAt m q scale).1, 0⟩
  | tries + 1 =>
    match onGrid? m q scale with
    | some n => ⟨n, digitCount n + scale⟩
    | none => shortestFrom m q (scale - 1) tries

/-- The shortest digits of `m * 2^q`, for a significand other than zero. Seventeen
digits always suffice. -/
def shortestDigits (m : Nat) (q : Int) : Digits :=
  shortestFrom m q (magnitude m q) 20

/-- Digits without the zeros at their end. -/
def dropTrailingZeros (digits : List Char) : List Char :=
  (digits.reverse.dropWhile (· = '0')).reverse

/-- Digits written positionally. -/
def positional (d : Digits) : String :=
  let digits := dropTrailingZeros (Nat.toDigits 10 d.value)
  let count : Int := digits.length
  if d.point ≤ 0 then
    String.ofList ("0.".toList ++ List.replicate (-d.point).toNat '0' ++ digits)
  else if count ≤ d.point then
    String.ofList (digits ++ List.replicate (d.point - count).toNat '0')
  else
    String.ofList (digits.take d.point.toNat ++ '.' :: digits.drop d.point.toNat)

/-- The text of a double: the shortest digits that read back, written positionally. -/
def render (x : Float) : String :=
  match Binary.ofFloat? x with
  | none => if x.isNaN then "NaN" else if x < 0 then "-inf" else "inf"
  | some b =>
    let unsigned := if b.significand = 0 then "0"
      else positional (shortestDigits b.significand b.exponent)
    if b.negative then "-" ++ unsigned else unsigned

end Number

end FieldGuard
