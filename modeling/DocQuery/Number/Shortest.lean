import DocQuery.Number.Binary64

/-!
The shortest decimal that reads back as a given number: on the coarsest decimal grid that has a
point in the interval of reals rounding to the number, the point nearest to it.
-/
namespace DocQuery

inductive Tie where
  | even
  | up
deriving DecidableEq, Repr

structure Scientific where
  coefficient : Nat
  exponent : Int
deriving DecidableEq, Repr

namespace Binary64

/-- Four times the counts of the ends of the interval that rounds to `magnitude`, which holds its
ends iff the significand is even. -/
structure Interval where
  low : Nat
  middle : Nat
  high : Nat
  closed : Bool

def interval (magnitude : Nat) : Interval :=
  let unit := 1 <<< shift magnitude
  let middle := 4 * counts magnitude
  let atBinade := magnitude % binade == 0 && 2 * binade ≤ magnitude
  { low := middle - (if atBinade then unit else 2 * unit)
    middle := middle
    high := middle + 2 * unit
    closed := magnitude % 2 == 0 }

def Interval.holds (i : Interval) (scale point : Nat) : Bool :=
  if i.closed then i.low * scale ≤ point && point ≤ i.high * scale
  else i.low * scale < point && point < i.high * scale

/-- The multiple of `10 ^ exponent` in the interval that is nearest to its middle, if there is
one. -/
def Interval.onGrid (i : Interval) (tie : Tie) (exponent : Int) : Option Nat :=
  let scale := tenTo (-exponent).toNat
  let grid := 4 * one * tenTo exponent.toNat
  let middle := i.middle * scale
  let below := middle / grid
  match i.holds scale (below * grid), i.holds scale ((below + 1) * grid) with
  | false, false => none
  | true, false => some below
  | false, true => some (below + 1)
  | true, true =>
    match compare (middle - below * grid) ((below + 1) * grid - middle) with
    | .lt => some below
    | .gt => some (below + 1)
    | .eq => some (if tie == .even && below % 2 == 0 then below else below + 1)

/-- Tries ever finer grids. The exact decimal ends the search, which seventeen digits never need. -/
def searchGrids (i : Interval) (tie : Tie) (magnitude : Nat) : Nat → Int → Scientific
  | 0, _ => ⟨counts magnitude * Nat.pow 5 1074, -1074⟩
  | tries + 1, exponent =>
    match i.onGrid tie exponent with
    | some coefficient => ⟨coefficient, exponent⟩
    | none => searchGrids i tie magnitude tries (exponent - 1)

def exponentAbove (counts : Nat) : Int :=
  ((Nat.log2 counts : Int) + 2 - 1074) * 30103 / 100000 + 2

def shortest (tie : Tie) (magnitude : Nat) : Scientific :=
  searchGrids (interval magnitude) tie magnitude 24 (exponentAbove (counts magnitude))

end Binary64

end DocQuery
