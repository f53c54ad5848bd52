import DocQuery.Number.Binary64
import DocQuery.Text.Digits

/-!
Decimal numbers of 34 digits. Their coefficient and exponent are kept as written, so `1.5` and
`1.50` are different numbers of equal value. Bits that do not count for the value are kept, too.
-/
namespace DocQuery

inductive Decimal128 where
  | finite (negative : Bool) (coefficient : Nat) (exponent : Int)
  | infinity (negative : Bool) (rest : Nat)
  | nan (negative signaling : Bool) (rest : Nat)
deriving DecidableEq, Repr

namespace Decimal128

def maxDigits : Nat := 34
def minExponent : Int := -6176
def maxExponent : Int := 6111

/-- An exponent that is read must fit 128 bits, before and after each adjustment. -/
def fits (exponent : Int) : Bool :=
  -0x80000000000000000000000000000000 ≤ exponent && exponent < 0x80000000000000000000000000000000

def dropZeros? (digits : List Char) (keep : Nat) : Option (List Char) :=
  if (digits.drop keep).all (· == '0') then some (digits.take keep) else none

/-- More digits than there is room for are dropped from the end, where they must be zeros. -/
def limitDigits? (digits : List Char) (exponent : Int) : Option (List Char × Int) :=
  if digits.length ≤ maxDigits then some (digits, exponent)
  else do
    let kept ← dropZeros? digits maxDigits
    let exponent := exponent + (digits.length - maxDigits : Nat)
    if fits exponent then some (kept, exponent) else none

/-- An exponent that is too small drops zeros, one that is too large adds them; zero takes the
nearest exponent there is. -/
def limitExponent? (digits : List Char) (exponent : Int) : Option (List Char × Int) :=
  if digits = ['0'] then some (digits, max minExponent (min maxExponent exponent))
  else if exponent < minExponent then
    let delta := (minExponent - exponent).toNat
    if delta ≤ digits.length then
      (dropZeros? digits (digits.length - delta)).map (·, minExponent)
    else none
  else if maxExponent < exponent then
    let delta := (exponent - maxExponent).toNat
    if digits.length + delta ≤ maxDigits then
      some (digits ++ List.replicate delta '0', maxExponent)
    else none
  else some (digits, exponent)

/-- The coefficient may carry a plus sign of its own; no digits at all are zero. -/
def readCoefficient? : List Char → Option Nat
  | '+' :: digits => Text.readNat? digits
  | digits => if digits.isEmpty then some 0 else Text.readNat? digits

def readFinite? (negative : Bool) (text : List Char) : Option Decimal128 := do
  let mantissa := text.takeWhile (· != 'e')
  let exponent ← match text.dropWhile (· != 'e') with
    | [] => some 0
    | _ :: digits => Text.readInt? digits
  guard (fits exponent)
  let whole := mantissa.takeWhile (· != '.')
  let fraction := (mantissa.dropWhile (· != '.')).drop 1
  let exponent := exponent - fraction.length
  guard (fits exponent)
  let digits := (whole ++ fraction).dropWhile (· == '0')
  let digits := if digits.isEmpty then ['0'] else digits
  let (digits, exponent) ← limitDigits? digits exponent
  let (digits, exponent) ← limitExponent? digits exponent
  return finite negative (← readCoefficient? digits) exponent

def read? (text : String) : Option Decimal128 :=
  let (negative, rest) := match text.toList with
    | '-' :: rest => (true, rest)
    | '+' :: rest => (false, rest)
    | rest => (false, rest)
  let rest := rest.map Char.toLower
  if rest = "nan".toList then some (nan negative false 0)
  else if rest = "snan".toList then some (nan negative true 0)
  else if rest = "inf".toList || rest = "infinity".toList then some (infinity negative 0)
  else readFinite? negative rest

/-- A coefficient with too many digits counts as zero. -/
def counted (coefficient : Nat) : Nat := if coefficient < tenTo maxDigits then coefficient else 0

/-- Plain unless the exponent is positive or more than five zeros would follow the point. -/
def magnitudeText (coefficient : Nat) (exponent : Int) : String :=
  let digits := Nat.toDigits 10 coefficient
  let adjusted := exponent + digits.length - 1
  if exponent ≤ 0 && -6 ≤ adjusted then
    let places := exponent.natAbs
    if places = 0 then String.ofList digits
    else if digits.length ≤ places then
      "0." ++ String.ofList (List.replicate (places - digits.length) '0' ++ digits)
    else
      String.ofList (digits.take (digits.length - places)) ++ "."
        ++ String.ofList (digits.drop (digits.length - places))
  else
    let sign := if 0 ≤ adjusted then "E+" else "E"
    let fraction := digits.drop 1
    String.ofList (digits.take 1)
      ++ (if fraction.isEmpty then "" else "." ++ String.ofList fraction)
      ++ sign ++ toString adjusted

def text : Decimal128 → String
  | finite negative coefficient exponent =>
    (if negative then "-" else "") ++ magnitudeText (counted coefficient) exponent
  | infinity negative _ => if negative then "-Infinity" else "Infinity"
  | nan .. => "NaN"

/-- The number that 128 bits stand for: a sign, an exponent of fourteen bits and a coefficient. Five
ones after the sign mark NaN, four infinity. After two ones the exponent comes two bits later, and
the coefficient has one more in front, so that it has too many digits. -/
def ofBits (n : Nat) : Decimal128 :=
  let negative := n.testBit 127
  let mark := n >>> 122 % 32
  let exponent (bits : Nat) : Int := bits % 16384 + minExponent
  if mark = 31 then nan negative (n.testBit 121) (n % (1 <<< 121))
  else if mark = 30 then infinity negative (n % (1 <<< 122))
  else if 24 ≤ mark then
    finite negative ((1 <<< 113) + n % (1 <<< 111)) (exponent (n >>> 111))
  else finite negative (n % (1 <<< 113)) (exponent (n >>> 113))

def ofBytes? (bytes : List UInt8) : Option Decimal128 :=
  if bytes.length = 16 then some (ofBits (bytes.foldr (fun b n => n * 256 + b.toNat) 0)) else none

/-- The nearest floating-point number; NaN loses its sign. -/
def toBinary64 : Decimal128 → Binary64
  | finite negative coefficient exponent =>
    Binary64.ofDecimal negative (counted coefficient) exponent
  | infinity negative _ => Binary64.infinity negative
  | nan .. => Binary64.nan

end Decimal128

end DocQuery
