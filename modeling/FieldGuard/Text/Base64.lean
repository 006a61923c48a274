/-!
# Bytes in base 64

Three bytes become four characters of the standard alphabet; the last group is padded
with `=`. Reading accepts exactly what writing produces: full groups, padding where it
belongs, and no stray bits before it.
-/

namespace FieldGuard.Text.Base64

/-- The alphabet, by value. -/
def alphabet : List Char :=
  "ABCDEFGHIJKLMNOPQRSTUVWXYZabcdefghijklmnopqrstuvwxyz0123456789+/".toList

/-- The character of a value below 64. -/
def character (n : Nat) : Char :=
  alphabet.getD n 'A'

/-- The value of a character of the alphabet. -/
def value? (c : Char) : Option Nat :=
  alphabet.idxOf? c

/-- The characters of some bytes. -/
def encodeBytes : List UInt8 → List Char
  | [] => []
  | [a] =>
    let n := a.toNat * 16
    [character (n / 64), character (n % 64), '=', '=']
  | [a, b] =>
    let n := (a.toNat * 256 + b.toNat) * 4
    [character (n / 4096), character (n / 64 % 64), character (n % 64), '=']
  | a :: b :: c :: rest =>
    let n := (a.toNat * 256 + b.toNat) * 256 + c.toNat
    character (n / 262144) :: character (n / 4096 % 64) :: character (n / 64 % 64)
      :: character (n % 64) :: encodeBytes rest

/-- Bytes as text. -/
def encode (bytes : List UInt8) : String :=
  String.ofList (encodeBytes bytes)

/-- The bytes of groups of four characters. -/
def decodeGroups? : List Char → Option (List UInt8)
  | [] => some []
  | [a, b, '=', '='] => do
    let n := (← value? a) * 64 + (← value? b)
    if n % 16 = 0 then return [UInt8.ofNat (n / 16)] else none
  | [a, b, c, '='] => do
    let n := ((← value? a) * 64 + (← value? b)) * 64 + (← value? c)
    if n % 4 = 0 then return [UInt8.ofNat (n / 1024), UInt8.ofNat (n / 4 % 256)] else none
  | a :: b :: c :: d :: rest => do
    let n := (((← value? a) * 64 + (← value? b)) * 64 + (← value? c)) * 64 + (← value? d)
    let bytes ← decodeGroups? rest
    return UInt8.ofNat (n / 65536) :: UInt8.ofNat (n / 256 % 256) :: UInt8.ofNat (n % 256) :: bytes
  | _ => none

/-- The bytes of a text. -/
def decode? (text : String) : Option (List UInt8) :=
  decodeGroups? text.toList

end FieldGuard.Text.Base64
