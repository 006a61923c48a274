/-!
# Numbers read from text

Whole numbers have an optional sign and digits. Doubles may also have a point and an
exponent, and there are words for infinity and NaN. A text with anything else in it is
refused.
-/

namespace FieldGuard.Number

/-- Splits off a sign. -/
def readSign : List Char → Bool × List Char
  | '-' :: rest => (true, rest)
  | '+' :: rest => (false, rest)
  | rest => (false, rest)

/-- The number that digits stand for. -/
def ofDigits (digits : List Char) : Nat :=
  digits.foldl (fun n c => 10 * n + (c.toNat - '0'.toNat)) 0

/-- A whole number. -/
def readInt? (text : String) : Option Int :=
  let (negative, digits) := readSign text.toList
  if digits.isEmpty || !digits.all Char.isDigit then none
  else if negative then some (-(ofDigits digits : Int))
  else some (ofDigits digits)

/-- A whole number of 32 bits. -/
def readInt32? (text : String) : Option Int32 := do
  let n ← readInt? text
  if Int32.minValue.toInt ≤ n ∧ n ≤ Int32.maxValue.toInt then return Int32.ofInt n else none

/-- A whole number of 64 bits. -/
def readInt64? (text : String) : Option Int64 := do
  let n ← readInt? text
  if Int64.minValue.toInt ≤ n ∧ n ≤ Int64.maxValue.toInt then return Int64.ofInt n else none

/-- Reads an exponent, or none. -/
def readExponent? : List Char → Option Int
  | [] => some 0
  | e :: rest =>
    if e = 'e' ∨ e = 'E' then
      let (negative, digits) := readSign rest
      if digits.isEmpty || !digits.all Char.isDigit then none
      else some (if negative then -(ofDigits digits : Int) else ofDigits digits)
    else none

/-- The double nearest to `value * 10^exponent`. Numbers of no more than 400 digits on either
side of the point decide all others. -/
def ofDecimal (value : Nat) (exponent : Int) : Float :=
  let length : Int := (Nat.toDigits 10 value).length
  if value = 0 ∨ length + exponent < -400 then 0
  else if length + exponent > 400 then 1 / 0
  else if exponent < 0 then Float.ofScientific value true exponent.natAbs
  else Float.ofScientific value false exponent.natAbs

/-- A double without a sign. -/
def readUnsigned? (text : List Char) : Option Float :=
  let word := String.ofList (text.map Char.toLower)
  if word = "inf" ∨ word = "infinity" then some (1 / 0)
  else if word = "nan" then some (0 / 0)
  else
    let whole := text.takeWhile Char.isDigit
    let (fraction, rest) := match text.dropWhile Char.isDigit with
      | '.' :: rest => (rest.takeWhile Char.isDigit, rest.dropWhile Char.isDigit)
      | rest => ([], rest)
    if whole.isEmpty && fraction.isEmpty then none
    else (readExponent? rest).map fun exponent =>
      ofDecimal (ofDigits (whole ++ fraction)) (exponent - fraction.length)

/-- A double. -/
def readFloat? (text : String) : Option Float :=
  let (negative, rest) := readSign text.toList
  (readUnsigned? rest).map fun x => if negative then -x else x

end FieldGuard.Number
