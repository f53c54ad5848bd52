import DocQuery.Number.Binary64
import DocQuery.Text.Digits

/-!
Numbers as they are written in JSON, and the numbers they stand for. Whole numbers of 64 bits are
exact. Any other is read as a whole number of at most 64 bits, made of its leading digits, times a
power of ten, both rounded before they are multiplied.
-/
namespace DocQuery.Json

inductive Number where
  | int (n : Int)
  | double (x : Binary64)
deriving DecidableEq, Repr

structure Numeral where
  negative : Bool
  whole : List Nat
  fraction : Option (List Nat)
  /-- The sign of the exponent, true for a minus, and its digits. -/
  exponent : Option (Bool × List Nat)
deriving DecidableEq, Repr

namespace Numeral

def isExponentMark (c : Char) : Bool := c == 'e' || c == 'E'

def digits (cs : List Char) : List Nat :=
  (cs.takeWhile Char.isDigit).map fun c => c.toNat - '0'.toNat

def afterDigits (cs : List Char) : List Char := cs.dropWhile Char.isDigit

def takeDigits? (cs : List Char) : Option (List Nat × List Char) :=
  if (digits cs).isEmpty then none else some (digits cs, afterDigits cs)

def takeWhole? (cs : List Char) : Option (List Nat × List Char) :=
  match takeDigits? cs with
  | some (0 :: _ :: _, _) => none
  | found => found

def takeFraction? : List Char → Option (Option (List Nat) × List Char)
  | '.' :: cs => (takeDigits? cs).map fun (ds, rest) => (some ds, rest)
  | cs => some (none, cs)

def takeExponent? : List Char → Option (Option (Bool × List Nat) × List Char)
  | c :: cs =>
    if isExponentMark c then
      match cs with
      | '-' :: cs => (takeDigits? cs).map fun (ds, rest) => (some (true, ds), rest)
      | '+' :: cs => (takeDigits? cs).map fun (ds, rest) => (some (false, ds), rest)
      | cs => (takeDigits? cs).map fun (ds, rest) => (some (false, ds), rest)
    else some (none, c :: cs)
  | [] => some (none, [])

def take? (cs : List Char) : Option (Numeral × List Char) := do
  let (negative, cs) := match cs with
    | '-' :: cs => (true, cs)
    | cs => (false, cs)
  let (whole, cs) ← takeWhole? cs
  let (fraction, cs) ← takeFraction? cs
  let (exponent, cs) ← takeExponent? cs
  return (⟨negative, whole, fraction, exponent⟩, cs)

/-- Appends digits to `n` as long as it stays within 64 bits; also how many digits are left. -/
def appendDigits (n : Nat) : List Nat → Nat × Nat
  | [] => (n, 0)
  | d :: ds =>
    if n * 10 + d ≤ Word.maxWord64 then appendDigits (n * 10 + d) ds else (n, ds.length + 1)

/-- An exponent has 32 bits. One that does not fit stands for `none`. -/
def exponentValue? (digits : List Nat) : Option Nat :=
  let n := Text.ofDigits 10 digits
  if n ≤ Word.maxInt32 then some n else none

def clampExponent (e : Int) : Int := max (-Word.maxInt32 - 1) (min Word.maxInt32 e)

def powerOfTen (k : Nat) : Binary64 := Binary64.ofInt (tenTo k)

/-- Divides by `10 ^ k` in steps that powers of ten within range allow. -/
def scaleDown (x : Binary64) (k : Nat) : Binary64 :=
  if k ≤ 308 then x.dividedBy (powerOfTen k)
  else if x.isZero then x
  else scaleDown (x.dividedBy (powerOfTen 308)) (k - 308)
termination_by k

def scale? (x : Binary64) : Int → Option Binary64
  | .ofNat k =>
    if k ≤ 308 then
      let y := x.times (powerOfTen k)
      if y.isInfinite then none else some y
    else if x.isZero then some x else none
  | .negSucc k => some (scaleDown x (k + 1))

def withSign (negative : Bool) (x : Binary64) : Binary64 :=
  Binary64.ofParts negative x.magnitude

def double? (n : Numeral) : Option Binary64 := do
  let (coefficient, dropped) := appendDigits 0 n.whole
  let fraction := n.fraction.getD []
  let (coefficient, unused) := appendDigits coefficient fraction
  let point : Int := dropped - ((fraction.length - unused : Nat) : Int)
  let x := Binary64.ofInt coefficient
  let y ← match n.exponent with
    | none => scale? x point
    | some (down, digits) =>
      match exponentValue? digits with
      | some e => scale? x (clampExponent (if down then point - e else point + e))
      | none => if coefficient = 0 || down then some (Binary64.zero false) else none
  return withSign n.negative y

/-- Minus zero and a whole number that does not fit are floating-point numbers. -/
def number? (n : Numeral) : Option Number :=
  let whole := Text.ofDigits 10 n.whole
  let isWhole := n.fraction.isNone && n.exponent.isNone
  if isWhole && !n.negative && whole ≤ Word.maxWord64 then some (.int whole)
  else if isWhole && n.negative && 0 < whole && Word.fitsInt64 (-(whole : Int)) then
    some (.int (-(whole : Int)))
  else n.double?.map .double

end Numeral

end DocQuery.Json
