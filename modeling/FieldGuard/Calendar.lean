/-!
# Moments in the calendar

A moment is a number of milliseconds since the start of 1970. Days are counted in the
Gregorian calendar, extended to all years. Moments are shown in universal time and
read from texts such as `2020-01-02T03:04:05.678+01:00`.
-/

namespace FieldGuard.Calendar

/-- A day of the calendar. -/
structure Date where
  year : Int
  month : Nat
  day : Nat
deriving DecidableEq, Repr

/-- The day with the given number, day 0 being the first of 1970. Years are counted from
March, so that a leap day ends one, in eras of 400 years. -/
def Date.ofDays (days : Int) : Date :=
  let shifted := days + 719468
  let era := shifted.fdiv 146097
  let dayOfEra := (shifted.fmod 146097).toNat
  let yearOfEra := (dayOfEra - dayOfEra / 1460 + dayOfEra / 36524 - dayOfEra / 146096) / 365
  let dayOfYear := dayOfEra - (365 * yearOfEra + yearOfEra / 4 - yearOfEra / 100)
  let shiftedMonth := (5 * dayOfYear + 2) / 153
  let month := if shiftedMonth < 10 then shiftedMonth + 3 else shiftedMonth - 9
  let year : Int := yearOfEra + era * 400
  ⟨if month ≤ 2 then year + 1 else year, month, dayOfYear - (153 * shiftedMonth + 2) / 5 + 1⟩

/-- The number of a day. -/
def Date.toDays (date : Date) : Int :=
  let year := if date.month ≤ 2 then date.year - 1 else date.year
  let era := year.fdiv 400
  let yearOfEra := (year.fmod 400).toNat
  let shiftedMonth := if date.month > 2 then date.month - 3 else date.month + 9
  let dayOfYear := (153 * shiftedMonth + 2) / 5 + date.day - 1
  let dayOfEra := yearOfEra * 365 + yearOfEra / 4 - yearOfEra / 100 + dayOfYear
  era * 146097 + dayOfEra - 719468

/-- Whether a year has a leap day. -/
def isLeapYear (year : Int) : Bool :=
  year % 4 == 0 && (year % 100 != 0 || year % 400 == 0)

/-- The number of days of a month. -/
def daysInMonth (year : Int) (month : Nat) : Nat :=
  if month = 2 then if isLeapYear year then 29 else 28
  else if [4, 6, 9, 11].contains month then 30
  else 31

/-- A number with zeros in front, up to a width. -/
def padded (width n : Nat) : String :=
  let digits := Nat.toDigits 10 n
  String.ofList (List.replicate (width - digits.length) '0' ++ digits)

/-- A year in at least four digits; one of more digits has a sign. -/
def showYear (year : Int) : String :=
  if year.natAbs ≥ 10000 then (if year < 0 then "-" else "+") ++ padded 4 year.natAbs
  else if year < 0 then "-" ++ padded 4 year.natAbs
  else padded 4 year.natAbs

/-- Thousandths as a fraction: without zeros at the end, but with one digit at least. -/
def showMillis (millis : Nat) : String :=
  let digits := ((padded 3 millis).toList.reverse.dropWhile (· = '0')).reverse
  if digits.isEmpty then "0" else String.ofList digits

/-- A moment as text: day, time and offset. Years are shown up to 999999 on either side; a moment
outside of them is shown as its number. -/
def render (millis : Int) : String :=
  let date := Date.ofDays (millis.fdiv 86400000)
  if date.year.natAbs > 999999 then toString millis
  else
    let rest := (millis.fmod 86400000).toNat
    showYear date.year ++ "-" ++ padded 2 date.month ++ "-" ++ padded 2 date.day ++ " "
      ++ toString (rest / 3600000) ++ ":" ++ padded 2 (rest / 60000 % 60) ++ ":"
      ++ padded 2 (rest / 1000 % 60) ++ "." ++ showMillis (rest % 1000) ++ " +00:00:00"

/-- Reads a number of exactly `count` digits. -/
def readDigits (count : Nat) (rest : List Char) : Option (Nat × List Char) :=
  let digits := rest.take count
  if digits.length = count ∧ digits.all Char.isDigit then
    some (digits.foldl (fun n c => 10 * n + (c.toNat - '0'.toNat)) 0, rest.drop count)
  else none

/-- Reads one given character. -/
def readChar (c : Char) : List Char → Option (List Char)
  | d :: rest => if c = d then some rest else none
  | [] => none

/-- Reads a fraction of a second in nanoseconds, digits past the ninth being ignored. -/
def readFraction (rest : List Char) : Option (Nat × List Char) :=
  match rest with
  | '.' :: rest =>
    let digits := rest.takeWhile Char.isDigit
    if digits.isEmpty then none
    else
      let nine := (digits ++ List.replicate 9 '0').take 9
      some (nine.foldl (fun n c => 10 * n + (c.toNat - '0'.toNat)) 0, rest.dropWhile Char.isDigit)
  | rest => some (0, rest)

/-- Reads an offset from universal time in minutes: `Z`, or hours and minutes with a sign. -/
def readOffset (rest : List Char) : Option (Int × List Char) :=
  match rest with
  | 'Z' :: rest | 'z' :: rest => some (0, rest)
  | sign :: rest => do
    if sign ≠ '+' ∧ sign ≠ '-' then none
    let (hours, rest) ← readDigits 2 rest
    let rest ← readChar ':' rest
    let (minutes, rest) ← readDigits 2 rest
    if hours > 23 ∨ minutes > 59 then none
    let offset : Int := hours * 60 + minutes
    return (if sign = '-' then -offset else offset, rest)
  | [] => none

/-- Skips any one character of ASCII. -/
def skipSeparator : List Char → Option (List Char)
  | c :: rest => if c.toNat < 0x80 then some rest else none
  | [] => none

/-- The moment that a text gives, in milliseconds, rounded towards 1970. Any character of ASCII may
stand between day and time. A leap second counts as the last nanosecond before it, and only at
the end of a month of universal time. -/
def read? (text : String) : Option Int := do
  let (year, rest) ← readDigits 4 text.toList
  let rest ← readChar '-' rest
  let (month, rest) ← readDigits 2 rest
  let rest ← readChar '-' rest
  let (day, rest) ← readDigits 2 rest
  let rest ← skipSeparator rest
  let (hour, rest) ← readDigits 2 rest
  let rest ← readChar ':' rest
  let (minute, rest) ← readDigits 2 rest
  let rest ← readChar ':' rest
  let (second, rest) ← readDigits 2 rest
  let (nanos, rest) ← readFraction rest
  let (offset, rest) ← readOffset rest
  if !rest.isEmpty then none
  let isLeap := second = 60
  let (second, nanos) := if isLeap then (59, 999999999) else (second, nanos)
  if month < 1 ∨ month > 12 ∨ day < 1 ∨ day > daysInMonth year month then none
  if hour > 23 ∨ minute > 59 ∨ second > 59 then none
  let days := Date.toDays ⟨year, month, day⟩
  let seconds : Int := days * 86400 + hour * 3600 + minute * 60 + second - offset * 60
  if isLeap then
    let utc := Date.ofDays (seconds.fdiv 86400)
    if seconds.fmod 86400 ≠ 86399 ∨ utc.day ≠ daysInMonth utc.year utc.month then none
  return (seconds * 1000000000 + nanos).tdiv 1000000

end FieldGuard.Calendar
