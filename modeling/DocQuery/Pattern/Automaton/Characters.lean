import Std.Data.HashMap
import DocQuery.Pattern.Automaton.Size
import DocQuery.Unicode.Encoding

/-!
The part of an automaton that reads one character of a set. States that go on in the same way are
shared as long as they are remembered; there is a fixed number of places to remember states in, and
a state takes the place that its description is hashed to.
-/
namespace DocQuery.Pattern.Automaton

open Unicode (ByteRange)

def hash (numbers : List Nat) : Nat :=
  (numbers.foldl (fun (h : UInt64) n => (h ^^^ UInt64.ofNat n) * 1099511628211)
    14695981039346656037).toNat

structure Memory where
  places : Nat
  known : Std.HashMap Nat (List Nat × Nat)

namespace Memory

def empty (places : Nat) : Memory := ⟨places, {}⟩

def find? (m : Memory) (description : List Nat) : Option Nat :=
  match m.known[hash description % m.places]? with
  | some (other, state) => if other == description then some state else none
  | none => none

def put (m : Memory) (description : List Nat) (state : Nat) : Memory :=
  { m with known := m.known.insert (hash description % m.places) (description, state) }

end Memory

def byFirst : List (List ByteRange) → List (ByteRange × List (List ByteRange))
  | [] => []
  | [] :: rows => byFirst rows
  | (range :: row) :: rows =>
    match byFirst rows with
    | (other, rests) :: groups =>
      if range = other then (range, row :: rests) :: groups
      else (range, [row]) :: (other, rests) :: groups
    | [] => [(range, [row])]

/-- Adds the state from which the rows are read, after the states that it goes on to. `target` is
where the rows end; no row is longer than `depth`. -/
def addRows (target : Nat) :
    (depth : Nat) → List (List ByteRange) → Memory × Size → Option (Nat × Memory × Size)
  | 0, _, built => some (target, built)
  | depth + 1, rows, built =>
    if rows.all List.isEmpty then some (target, built) else do
      let groups := byFirst rows
      let (description, m, s) ← groups.foldlM (fun (found, built) (range, rests) => do
        let (next, built) ← addRows target depth rests built
        return (found ++ [range.1, range.2, next], built)) (([] : List Nat), built)
      match m.find? description with
      | some state => return (state, m, s)
      | none => return (s.states, m.put description s.states, ← s.ranges groups.length)

def addBackwards : Nat → List ByteRange → Memory × Size → Option (Nat × Memory × Size)
  | target, [], built => some (target, built)
  | target, range :: row, (m, s) =>
    let description := [target, range.1, range.2]
    match m.find? description with
    | some state => addBackwards state row (m, s)
    | none => do
      addBackwards s.states row (m.put description s.states, ← s.plain 1)

def forwardPlaces : Nat := 10000

def backwardPlaces : Nat := 1000

def longestEncoding : Nat := 4

def addSet (forward : Bool) (set : CharSet) (s : Size) : Option Part :=
  if set.intervals.all (·.2 < 128) then do
    return .plainEnd (← (← s.plain 1).ranges set.intervals.length)
  else if forward then do
    let (_, _, size) ← addRows s.states longestEncoding set.encodingRows
      (.empty forwardPlaces, ← s.plain 1)
    return .plainEnd size
  else do
    let target := s.states + 1
    let (_, size) ← set.encodingRows.foldlM (fun (m, s) row => do
      let (_, m, s) ← addBackwards target row (m, s)
      return (m, ← s.branches 1)) (Memory.empty backwardPlaces, ← s.plain 2)
    return .plainEnd size

end DocQuery.Pattern.Automaton
