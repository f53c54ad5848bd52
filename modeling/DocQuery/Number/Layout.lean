import DocQuery.Number.Shortest

/-!
Written forms of floating-point numbers. A layout says which numbers are written without an exponent
and how whole numbers end; the digits are always the shortest that read back.
-/
namespace DocQuery

/-- `point` below is the place of the decimal point: the number is `0.ddd * 10 ^ point`. -/
structure Layout where
  tie : Tie
  positional : Int → Bool
  wholeEnding : String

namespace Layout

/-- Plain from `10 ^ -6` up to below `10 ^ 21`, whole numbers bare. -/
def natural : Layout := ⟨.up, fun point => -5 ≤ point && point ≤ 21, ""⟩

/-- Plain from `10 ^ -5` up to below `10 ^ 16`, whole numbers with one decimal. -/
def json : Layout := ⟨.even, fun point => -4 ≤ point && point ≤ 16, ".0"⟩

def plain : Layout := ⟨.up, fun _ => true, ""⟩

def zeros (n : Nat) : String := String.ofList (List.replicate n '0')

def writePositional (l : Layout) (digits : List Char) (point : Int) : String :=
  if point ≤ 0 then "0." ++ zeros (-point).toNat ++ String.ofList digits
  else
    let places := point.toNat
    if digits.length ≤ places then
      String.ofList digits ++ zeros (places - digits.length) ++ l.wholeEnding
    else String.ofList (digits.take places) ++ "." ++ String.ofList (digits.drop places)

def writeExponent (n : Int) : String :=
  if n < 0 then "e" ++ toString n else "e+" ++ toString n

def writeScientific (digits : List Char) (point : Int) : String :=
  match digits with
  | [] => ""
  | [d] => String.ofList [d] ++ writeExponent (point - 1)
  | d :: rest => String.ofList [d] ++ "." ++ String.ofList rest ++ writeExponent (point - 1)

def writeMagnitude (l : Layout) (magnitude : Nat) : String :=
  if magnitude = 0 then "0" ++ l.wholeEnding
  else
    let s := Binary64.shortest l.tie magnitude
    let digits := Nat.toDigits 10 s.coefficient
    let point := digits.length + s.exponent
    if l.positional point then l.writePositional digits point else writeScientific digits point

def write (l : Layout) (x : Binary64) : String :=
  (if x.negative then "-" else "") ++ l.writeMagnitude x.magnitude

end Layout

namespace Binary64

/-- Whole numbers below `2 ^ 53` are written as integers, so that a number's text does not depend on
its type; `-0` is zero. -/
def naturalText (x : Binary64) : String :=
  if x.isNaN then "NaN"
  else if x.isInfinite then (if x.negative then "-Infinity" else "Infinity")
  else match x.integer? with
    | some n => if n.natAbs < 2 * Binary64.binade then toString n else Layout.natural.write x
    | none => Layout.natural.write x

def logText (x : Binary64) : String :=
  if x.isNaN then "NaN"
  else if x.isInfinite then (if x.negative then "-inf" else "inf")
  else Layout.plain.write x

end Binary64

end DocQuery
