/-!
# Bytes in hexadecimal

Two digits for each byte, written in lower case and read in either case.
-/

namespace FieldGuard.Text.Hex

/-- The digit of a number below sixteen. -/
def digit (n : Nat) : Char :=
  "0123456789abcdef".toList.getD n '0'

/-- The value of a digit. -/
def digitValue? (c : Char) : Option Nat :=
  if c.isDigit then some (c.toNat - '0'.toNat)
  else if 'a' ≤ c ∧ c ≤ 'f' then some (c.toNat - 'a'.toNat + 10)
  else if 'A' ≤ c ∧ c ≤ 'F' then some (c.toNat - 'A'.toNat + 10)
  else none

/-- Bytes as digits. -/
def encode (bytes : List UInt8) : String :=
  String.ofList (bytes.flatMap fun b => [digit (b.toNat / 16), digit (b.toNat % 16)])

/-- The bytes that pairs of digits stand for. -/
def decodeDigits? : List Char → Option (List UInt8)
  | [] => some []
  | high :: low :: rest => do
    let h ← digitValue? high
    let l ← digitValue? low
    let bytes ← decodeDigits? rest
    return UInt8.ofNat (16 * h + l) :: bytes
  | [_] => none

/-- The bytes that a text of digits stands for. -/
def decode? (text : String) : Option (List UInt8) :=
  decodeDigits? text.toList

/-- A number in hexadecimal, without zeros in front. -/
def ofNat (n : Nat) : String :=
  String.ofList (Nat.toDigits 16 n)

end FieldGuard.Text.Hex
