import DocQuery.Number.Word

/-!
Floating-point numbers of 64 bits: a sign, eleven exponent bits and fifty-two fraction bits. A
finite one is a whole count of `2 ^ -1074`, so its value, its rounding and its order are arithmetic
on `Nat` and `Int`.
-/
namespace DocQuery

structure Binary64 where
  bits : UInt64
deriving DecidableEq, Repr

namespace Binary64

def signWeight : Nat := 0x8000000000000000

def negative (x : Binary64) : Bool :=
  decide (signWeight ≤ x.bits.toNat)

/-- The bits below the sign. They grow with the absolute value; those of NaN are above all
others. -/
def magnitude (x : Binary64) : Nat :=
  x.bits.toNat % signWeight

def binade : Nat := 0x10000000000000

def infiniteMagnitude : Nat := 2047 * binade

def ofParts (negative : Bool) (magnitude : Nat) : Binary64 :=
  ⟨UInt64.ofNat ((if negative then signWeight else 0) + magnitude)⟩

def infinity (negative : Bool) : Binary64 := ofParts negative infiniteMagnitude

def nan : Binary64 := ofParts false (infiniteMagnitude + binade / 2)

def zero (negative : Bool) : Binary64 := ofParts negative 0

def isNaN (x : Binary64) : Bool := infiniteMagnitude < x.magnitude

def isInfinite (x : Binary64) : Bool := x.magnitude == infiniteMagnitude

def isFinite (x : Binary64) : Bool := x.magnitude < infiniteMagnitude

def isZero (x : Binary64) : Bool := x.magnitude == 0

/-- How far the significand is shifted: the unit in the last place is `2 ^ shift` counts. -/
def shift (magnitude : Nat) : Nat := magnitude / binade - 1

def significand (magnitude : Nat) : Nat :=
  if magnitude < binade then magnitude else binade + magnitude % binade

def counts (magnitude : Nat) : Nat :=
  significand magnitude <<< shift magnitude

def one : Nat := 1 <<< 1074

def halfEven (num den : Nat) : Nat :=
  let low := num / den
  let twice := 2 * (num % den)
  if twice < den then low
  else if den < twice then low + 1
  else if low % 2 = 0 then low
  else low + 1

/-- The magnitude nearest to `num / den` counts; a half goes to the even neighbour, and what is too
large becomes infinite. -/
def nearest (num den : Nat) : Nat :=
  let s := Nat.log2 (num / den) - 52
  min (s * binade + halfEven num (den <<< s)) infiniteMagnitude

def ofInt (n : Int) : Binary64 :=
  ofParts (decide (n < 0)) (nearest (n.natAbs * one) 1)

def integer? (x : Binary64) : Option Int :=
  let c := counts x.magnitude
  if x.isFinite && c % one == 0 then
    some (if x.negative then -(c / one : Nat) else (c / one : Nat))
  else none

def times (x y : Binary64) : Binary64 :=
  ofParts (x.negative != y.negative) (nearest (counts x.magnitude * counts y.magnitude) one)

def dividedBy (x y : Binary64) : Binary64 :=
  ofParts (x.negative != y.negative) (nearest (counts x.magnitude * one) (counts y.magnitude))

/-- The magnitude nearest to `coefficient * 10 ^ exponent`. An exponent so large or small that the
answer is infinite or zero for any coefficient of that length is answered without the power. -/
def decimalMagnitude (coefficient : Nat) : Int → Nat
  | .ofNat k =>
    if coefficient = 0 then 0
    else if 400 < k then infiniteMagnitude
    else nearest (coefficient * tenTo k * one) 1
  | .negSucc k =>
    if 400 + Nat.log2 coefficient < k then 0
    else nearest (coefficient * one) (tenTo (k + 1))

def ofDecimal (negative : Bool) (coefficient : Nat) (exponent : Int) : Binary64 :=
  ofParts negative (decimalMagnitude coefficient exponent)

/-- Position in the total order: negative numbers first, `-0` before `0`, NaN at both ends by its
sign. -/
def orderKey (x : Binary64) : Int :=
  if x.negative then -(x.magnitude : Int) - 1 else x.magnitude

def compareTotal (x y : Binary64) : Ordering :=
  compare x.orderKey y.orderKey

/-- Equality of values: the two zeros are equal and NaN equals nothing. -/
def equal (x y : Binary64) : Bool :=
  !x.isNaN && !y.isNaN && (x == y || (x.isZero && y.isZero))

def belowZero (x : Binary64) : Bool :=
  x.negative && !x.isNaN && !x.isZero

end Binary64

end DocQuery
