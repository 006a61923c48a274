/-!
# Decimal numbers of 128 bits

A decimal number is stored in 16 bytes: a sign, a power of ten and a coefficient of up to 34
digits. `decimalText` writes it in full or in scientific notation.
-/

namespace FieldGuard.Number

/-- The number of 16 bytes, the first being the lowest. -/
def littleEndian (bytes : List UInt8) : Nat :=
  bytes.foldr (fun b n => b.toNat + 256 * n) 0

/-- The text of a decimal number of 16 bytes: a coefficient of up to 34 digits and a power
of ten, in scientific notation where a point would need zeros after it. -/
def decimalText (bytes : List UInt8) : String :=
  let bits := littleEndian bytes
  let sign := if bits >>> 127 = 1 then "-" else ""
  let combination := (bits >>> 122) % 32
  if combination = 31 then "NaN"
  else if combination = 30 then sign ++ "Infinity"
  else
    let large := (bits >>> 125) % 4 = 3
    let biased : Nat := if large then (bits >>> 111) % (1 <<< 14) else (bits >>> 113) % (1 <<< 14)
    let coefficient := if large then 0 else bits % (1 <<< 113)
    let coefficient := if coefficient < Nat.pow 10 34 then coefficient else 0
    let exponent : Int := (biased : Int) - 6176
    let digits := Nat.toDigits 10 coefficient
    let adjusted : Int := exponent + digits.length - 1
    if exponent ≤ 0 ∧ adjusted ≥ -6 then
      let places := exponent.natAbs
      let whole := List.replicate (places + 1 - digits.length) '0' ++ digits
      let before := whole.take (whole.length - places)
      let after := whole.drop (whole.length - places)
      sign ++ String.ofList (if after.isEmpty then before else before ++ '.' :: after)
    else
      let mantissa := match digits with
        | first :: second :: rest => first :: '.' :: second :: rest
        | digits => digits
      sign ++ String.ofList mantissa ++ "E" ++ (if adjusted < 0 then "" else "+")
        ++ toString adjusted

end FieldGuard.Number
