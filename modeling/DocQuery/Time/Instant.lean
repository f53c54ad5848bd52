import DocQuery.Number.Word
import DocQuery.Text.Digits

/-!
Moments in time, counted in milliseconds from the start of 1970, and their date and time of day in
the proleptic Gregorian calendar.
-/
namespace DocQuery

structure Instant where
  millis : Int64
deriving DecidableEq, Repr

namespace Instant

structure Civil where
  year : Int
  month : Nat
  day : Nat
deriving DecidableEq, Repr

/-- Counts years from March, so that the leap day comes last; an era has 400 years. -/
def civilOfDays (days : Int) : Civil :=
  let z := days + 719468
  let era := z / 146097
  let dayOfEra := z % 146097
  let yearOfEra := (dayOfEra - dayOfEra / 1460 + dayOfEra / 36524 - dayOfEra / 146096) / 365
  let dayOfYear := dayOfEra - (365 * yearOfEra + yearOfEra / 4 - yearOfEra / 100)
  let shifted := (5 * dayOfYear + 2) / 153
  let day := dayOfYear - (153 * shifted + 2) / 5 + 1
  let month := if shifted < 10 then shifted + 3 else shifted - 9
  let year := yearOfEra + era * 400 + (if month ≤ 2 then 1 else 0)
  ⟨year, month.toNat, day.toNat⟩

def daysOfCivil (c : Civil) : Int :=
  let y := if c.month ≤ 2 then c.year - 1 else c.year
  let era := y / 400
  let yearOfEra := y % 400
  let shifted : Int := if 2 < c.month then (c.month : Int) - 3 else c.month + 9
  let dayOfYear := (153 * shifted + 2) / 5 + c.day - 1
  era * 146097 + yearOfEra * 365 + yearOfEra / 4 - yearOfEra / 100 + dayOfYear - 719468

def isLeap (year : Int) : Bool :=
  year % 4 == 0 && (year % 100 != 0 || year % 400 == 0)

def daysInMonth (year : Int) (month : Nat) : Nat :=
  if month = 2 then (if isLeap year then 29 else 28)
  else if month = 4 || month = 6 || month = 9 || month = 11 then 30
  else 31

def millisPerDay : Int := 86400000

structure Reading where
  date : Civil
  hour : Nat
  minute : Nat
  second : Nat
  nanos : Nat
deriving DecidableEq, Repr

def latest : Reading := ⟨⟨9999, 12, 31⟩, 23, 59, 59, 999999999⟩
def earliest : Reading := ⟨⟨-9999, 1, 1⟩, 0, 0, 0, 0⟩

/-- Moments outside the years -9999 to 9999 are read as the nearest end of that range. -/
def reading (t : Instant) : Reading :=
  let millis := t.millis.toInt
  let date := civilOfDays (millis / millisPerDay)
  if 9999 < date.year then latest
  else if date.year < -9999 then earliest
  else
    let rest := (millis % millisPerDay).toNat
    ⟨date, rest / 3600000, rest / 60000 % 60, rest / 1000 % 60, rest % 1000 * 1000000⟩

def fractionDigits (nanos : Nat) : List Char :=
  ((Text.writePadded 9 nanos).toList.reverse.dropWhile (· == '0')).reverse

def rfc3339? (t : Instant) : Option String :=
  let r := t.reading
  if r.date.year < 0 then none
  else
    let fraction := fractionDigits r.nanos
    some (Text.writePadded 4 r.date.year.toNat ++ "-" ++ Text.writePadded 2 r.date.month ++ "-"
      ++ Text.writePadded 2 r.date.day ++ "T" ++ Text.writePadded 2 r.hour ++ ":"
      ++ Text.writePadded 2 r.minute ++ ":" ++ Text.writePadded 2 r.second
      ++ (if fraction.isEmpty then "" else "." ++ String.ofList fraction) ++ "Z")

def naturalText (t : Instant) : String :=
  t.rfc3339?.getD (toString t.millis.toInt)

def isInRange (t : Instant) : Bool :=
  (civilOfDays (t.millis.toInt / millisPerDay)).year.natAbs ≤ 9999

/-- Date and time with a blank between them; moments outside the range are counted. -/
def logText (t : Instant) : String :=
  if !t.isInRange then toString t.millis.toInt
  else
    let r := t.reading
    let fraction := fractionDigits r.nanos
    (if r.date.year < 0 then "-" else "") ++ Text.writePadded 4 r.date.year.natAbs ++ "-"
      ++ Text.writePadded 2 r.date.month ++ "-" ++ Text.writePadded 2 r.date.day ++ " "
      ++ toString r.hour ++ ":" ++ Text.writePadded 2 r.minute ++ ":" ++ Text.writePadded 2 r.second
      ++ "." ++ (if fraction.isEmpty then "0" else String.ofList fraction) ++ " +00:00:00"

def clamp (millis : Int) : Instant :=
  ⟨Int64.ofInt (max (-Word.maxInt64 - 1) (min Word.maxInt64 millis))⟩

def takeNumber? (width : Nat) (text : List Char) : Option (Nat × List Char) := do
  let digits := text.take width
  guard (digits.length = width)
  return (← Text.readNat? digits, text.drop width)

def takeChar? (c : Char) : List Char → Option (List Char)
  | d :: rest => if d = c then some rest else none
  | [] => none

/-- A fraction has at least one digit; those after the ninth are not used. -/
def takeNanos? : List Char → Option (Nat × List Char)
  | '.' :: rest => do
    let digits := rest.takeWhile Char.isDigit
    let used := digits.take 9
    let n ← Text.readNat? (used ++ List.replicate (9 - used.length) '0')
    guard (!digits.isEmpty)
    return (n, rest.dropWhile Char.isDigit)
  | rest => some (0, rest)

/-- Minutes that local time is ahead of universal time. -/
def readOffset? : List Char → Option Int
  | ['Z'] | ['z'] => some 0
  | sign :: rest => do
    guard (sign = '+' || sign = '-')
    let (hours, rest) ← takeNumber? 2 rest
    let rest ← takeChar? ':' rest
    let (minutes, rest) ← takeNumber? 2 rest
    guard (rest.isEmpty && hours ≤ 23 && minutes ≤ 59)
    let minutes : Int := hours * 60 + minutes
    return if sign = '-' then -minutes else minutes
  | [] => none

/-- A leap second is read as the last instant of the second before it, and only stands at the end of
the last day of a month in universal time. -/
def endsMonth (seconds : Int) : Bool :=
  let date := civilOfDays ((seconds + 1) / 86400)
  (seconds + 1) % 86400 == 0 && date.day == 1

/-- Date and time are parted by one character, of whatever kind. -/
def dropSeparator? : List Char → Option (List Char)
  | c :: rest => if c.toNat < 128 then some rest else none
  | [] => none

/-- A full date and time with its offset; the fraction is cut to milliseconds toward zero. -/
def readRfc3339? (text : String) : Option Instant := do
  let (year, rest) ← takeNumber? 4 text.toList
  let rest ← takeChar? '-' rest
  let (month, rest) ← takeNumber? 2 rest
  let rest ← takeChar? '-' rest
  let (day, rest) ← takeNumber? 2 rest
  let rest ← dropSeparator? rest
  let (hour, rest) ← takeNumber? 2 rest
  let rest ← takeChar? ':' rest
  let (minute, rest) ← takeNumber? 2 rest
  let rest ← takeChar? ':' rest
  let (second, rest) ← takeNumber? 2 rest
  let (nanos, rest) ← takeNanos? rest
  let offset ← readOffset? rest
  guard (1 ≤ month && month ≤ 12 && 1 ≤ day && day ≤ daysInMonth year month)
  guard (hour ≤ 23 && minute ≤ 59 && second ≤ 60)
  let leap := second == 60
  let second := if leap then 59 else second
  let nanos := if leap then 999999999 else nanos
  let seconds := daysOfCivil ⟨year, month, day⟩ * 86400 + hour * 3600 + minute * 60 + second
    - offset * 60
  guard (!leap || endsMonth seconds)
  return clamp ((seconds * 1000000000 + nanos).tdiv 1000000)

end Instant

end DocQuery
