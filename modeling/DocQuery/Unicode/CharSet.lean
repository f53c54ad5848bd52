import DocQuery.Text.Digits
import DocQuery.Text.Split

/-!
Sets of characters as closed intervals of code points. The intervals are in order and do not touch,
so equal sets are equal lists. The code points of surrogates are no characters; an interval may pass
over them, and nothing depends on whether it does, except that intervals on both sides of them do
not touch.
-/
namespace DocQuery

structure CharSet where
  intervals : List (Nat × Nat)
deriving DecidableEq, Repr

namespace CharSet

def last : Nat := 0x10FFFF

def next (n : Nat) : Nat := if n = 0xD7FF then 0xE000 else n + 1

def prev (n : Nat) : Nat := if n = 0xE000 then 0xD7FF else n - 1

def empty : CharSet := ⟨[]⟩

def all : CharSet := ⟨[(0, last)]⟩

def ofEnds (low high : Nat) : CharSet := ⟨[(low, high)]⟩

def range (low high : Char) : CharSet := ofEnds low.toNat high.toNat

def single (c : Char) : CharSet := range c c

def ascii : CharSet := ofEnds 0 0x7F

def single? (s : CharSet) : Option Char :=
  match s.intervals with
  | [(low, high)] => if low = high then some (Char.ofNat low) else none
  | _ => none

/-- Joins intervals that touch or overlap; they come in the order of their starts. -/
def coalesce : List (Nat × Nat) → List (Nat × Nat)
  | [] => []
  | [i] => [i]
  | (a, b) :: (c, d) :: rest =>
    if c ≤ b + 1 then coalesce ((a, max b d) :: rest) else (a, b) :: coalesce ((c, d) :: rest)
termination_by is => is.length

def ofIntervals (is : List (Nat × Nat)) : CharSet :=
  ⟨coalesce (is.mergeSort fun a b => a.1 < b.1 || (a.1 == b.1 && a.2 ≤ b.2))⟩

def join (sets : List CharSet) : CharSet := ofIntervals (sets.flatMap intervals)

def union (s t : CharSet) : CharSet := join [s, t]

def interIntervals : List (Nat × Nat) → List (Nat × Nat) → List (Nat × Nat)
  | (a, b) :: is, (c, d) :: js =>
    let rest := if b < d then interIntervals is ((c, d) :: js) else interIntervals ((a, b) :: is) js
    if max a c ≤ min b d then (max a c, min b d) :: rest else rest
  | _, _ => []
termination_by is js => is.length + js.length

def inter (s t : CharSet) : CharSet := ⟨interIntervals s.intervals t.intervals⟩

/-- What is between intervals and after them, where `before` is the end of the interval before.
Where surrogates are all that lies between two intervals, the characters around them are taken. -/
def gaps (before : Nat) : List (Nat × Nat) → List (Nat × Nat)
  | [] => if before < last then [(next before, last)] else []
  | (a, b) :: rest =>
    (min (next before) (prev a), max (next before) (prev a)) :: gaps b rest

def compl (s : CharSet) : CharSet :=
  match s.intervals with
  | [] => all
  | (a, b) :: rest => if 0 < a then ⟨(0, prev a) :: gaps b rest⟩ else ⟨gaps b rest⟩

def diffIntervals : List (Nat × Nat) → List (Nat × Nat) → List (Nat × Nat)
  | [], _ => []
  | is, [] => is
  | (a, b) :: is, (c, d) :: js =>
    if d < a then diffIntervals ((a, b) :: is) js
    else if b < c then (a, b) :: diffIntervals is ((c, d) :: js)
    else
      let rest :=
        if d < b then diffIntervals ((next d, b) :: is) js else diffIntervals is ((c, d) :: js)
      if a < c then (a, prev c) :: rest else rest
termination_by is js => is.length + js.length

def diff (s t : CharSet) : CharSet := ⟨diffIntervals s.intervals t.intervals⟩

def symmDiff (s t : CharSet) : CharSet := (s.union t).diff (s.inter t)

def isWithin (table : Array (Nat × Nat)) (n low high : Nat) : Bool :=
  if _h : low < high then
    let middle := (low + high) / 2
    match table[middle]? with
    | some (a, b) =>
      if n < a then isWithin table n low middle
      else if b < n then isWithin table n (middle + 1) high
      else true
    | none => false
  else false
termination_by high - low

def holdsCode (s : CharSet) (n : Nat) : Bool := s.intervals.any fun (a, b) => a ≤ n && n ≤ b

def holds (s : CharSet) (c : Char) : Bool := s.holdsCode c.toNat

def tests (s : CharSet) (text : List Char) : List Bool :=
  let table := s.intervals.toArray
  text.map fun c => isWithin table c.toNat 0 table.size

/-- Numbers in turn say how many code points are passed over and how many are members. -/
def ofCounts (start : Nat) : List Nat → List (Nat × Nat)
  | skipped :: count :: rest =>
    (start + skipped, start + skipped + count - 1) :: ofCounts (start + skipped + count) rest
  | _ => []

def ofRows (rows : List String) : CharSet :=
  ⟨ofCounts 0 (rows.flatMap fun row =>
    (Text.split ' ' row).map fun n => (Text.readHex? n.toList).getD 0)⟩

end CharSet

namespace Unicode

abbrev Table := List (String × List String)

def Table.set? (t : Table) (name : String) : Option CharSet := (t.lookup name).map .ofRows

end Unicode

end DocQuery
