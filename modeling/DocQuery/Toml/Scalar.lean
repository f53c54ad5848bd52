import DocQuery.Number.Literal
import DocQuery.Time.Instant

/-!
Values of TOML that are written without quotes: numbers, truth values, dates and times. Only whether
such a word is well formed and within range is decided here.
-/
namespace DocQuery.Toml.Scalar

def isWordChar (c : Char) : Bool :=
  c.isAlphanum || c == '+' || c == '-' || c == '_' || c == '.' || c == ':'

def isDigits (digit : Char → Bool) : List Char → Bool
  | [] => false
  | [c] => digit c
  | c :: '_' :: rest => digit c && isDigits digit rest
  | c :: rest => digit c && isDigits digit rest

def dropSign : List Char → List Char
  | '+' :: cs | '-' :: cs => cs
  | cs => cs

def isDecimal (cs : List Char) : Bool :=
  isDigits Char.isDigit cs && (cs.length == 1 || cs.head? != some '0')

def isOctal (c : Char) : Bool := '0' ≤ c && c ≤ '7'

def isBinary (c : Char) : Bool := c == '0' || c == '1'

def isHexadecimal (c : Char) : Bool := (Text.hexValue? c).isSome

def value (base : Nat) (cs : List Char) : Nat :=
  Text.ofDigits base (cs.filterMap Text.hexValue?)

/-- Integers have 128 bits. One bit says the sign if there is a minus. -/
def fits (negative : Bool) (n : Nat) : Bool :=
  n ≤ if negative then 0x80000000000000000000000000000000 else 0xFFFFFFFFFFFFFFFFFFFFFFFFFFFFFFFF

def isInteger : List Char → Bool
  | '0' :: 'x' :: cs => isDigits isHexadecimal cs && fits false (value 16 cs)
  | '0' :: 'o' :: cs => isDigits isOctal cs && fits false (value 8 cs)
  | '0' :: 'b' :: cs => isDigits isBinary cs && fits false (value 2 cs)
  | '-' :: cs => isDecimal cs && fits true (value 10 cs)
  | '+' :: cs | cs => isDecimal cs && fits false (value 10 cs)

def isExponentMark (c : Char) : Bool := c == 'e' || c == 'E'

def isFinite (cs : List Char) : Bool :=
  (Binary64.readMagnitude? (cs.filter (· != '_'))).any (· < Binary64.infiniteMagnitude)

def isFloat (cs : List Char) : Bool :=
  let cs := dropSign cs
  let mantissa := cs.takeWhile fun c => !isExponentMark c
  let exponent := (cs.dropWhile fun c => !isExponentMark c).drop 1
  let whole := mantissa.takeWhile (· != '.')
  let fraction := (mantissa.dropWhile (· != '.')).drop 1
  let hasExponent := cs.any isExponentMark
  let hasFraction := mantissa.contains '.'
  isDecimal whole && (hasExponent || hasFraction)
    && (!hasFraction || isDigits Char.isDigit fraction)
    && (!hasExponent || isDigits Char.isDigit (dropSign exponent)) && isFinite cs

def isSpecial (cs : List Char) : Bool :=
  [['i', 'n', 'f'], ['n', 'a', 'n']].contains (dropSign cs)

def isTruth (cs : List Char) : Bool := ["true".toList, "false".toList].contains cs

def takeDate? (cs : List Char) : Option (List Char) := do
  let (year, cs) ← Instant.takeNumber? 4 cs
  let cs ← Instant.takeChar? '-' cs
  let (month, cs) ← Instant.takeNumber? 2 cs
  let cs ← Instant.takeChar? '-' cs
  let (day, cs) ← Instant.takeNumber? 2 cs
  guard (1 ≤ month && month ≤ 12 && 1 ≤ day && day ≤ Instant.daysInMonth year month)
  return cs

/-- A time of day, and what follows it. The seconds may be left out. -/
def takeTime? (cs : List Char) : Option (List Char) := do
  let (hour, cs) ← Instant.takeNumber? 2 cs
  let cs ← Instant.takeChar? ':' cs
  let (minute, cs) ← Instant.takeNumber? 2 cs
  guard (hour ≤ 23 && minute ≤ 59)
  match cs with
  | ':' :: cs =>
    let (second, cs) ← Instant.takeNumber? 2 cs
    let (_, cs) ← Instant.takeNanos? cs
    guard (second ≤ 60)
    return cs
  | cs => return cs

def isDate (cs : List Char) : Bool := takeDate? cs == some []

def isTime (cs : List Char) : Bool := takeTime? cs == some []

def isMoment (cs : List Char) : Bool :=
  match takeDate? cs with
  | some (mark :: cs) =>
    (mark == 'T' || mark == 't' || mark == ' ') &&
      match takeTime? cs with
      | some [] => true
      | some offset => (Instant.readOffset? offset).isSome
      | none => false
  | _ => false

def isWord (cs : List Char) : Bool :=
  isTruth cs || isInteger cs || isFloat cs || isSpecial cs || isDate cs || isTime cs || isMoment cs

/-- The word at the start of a text. Between a date and a time stands a space, too. -/
def takeWord (cs : List Char) : List Char × List Char :=
  let word := cs.takeWhile isWordChar
  match cs.dropWhile isWordChar with
  | ' ' :: c :: rest =>
    if isDate word && c.isDigit then
      (word ++ ' ' :: (c :: rest).takeWhile isWordChar, (c :: rest).dropWhile isWordChar)
    else (word, ' ' :: c :: rest)
  | rest => (word, rest)

def take? (cs : List Char) : Option (List Char) :=
  let (word, rest) := takeWord cs
  if isWord word then some rest else none

end DocQuery.Toml.Scalar
