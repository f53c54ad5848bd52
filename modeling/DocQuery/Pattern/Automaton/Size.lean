/-!
The size of an automaton over bytes while it is built. A state takes a fixed number of bytes; a
state with several ways out takes more for each of them.
-/
namespace DocQuery.Pattern.Automaton

def maxBytes : Nat := 10485760

def stateBytes : Nat := 32

def rangeBytes : Nat := 8

def branchBytes : Nat := 4

structure Size where
  states : Nat
  bytes : Nat
deriving DecidableEq, Repr

namespace Size

def zero : Size := ⟨0, 0⟩

def grow (states bytes : Nat) (s : Size) : Option Size :=
  let bytes := s.bytes + states * stateBytes + bytes
  if bytes ≤ maxBytes then some ⟨s.states + states, bytes⟩ else none

def plain (count : Nat) (s : Size) : Option Size := s.grow count 0

def ranges (count : Nat) (s : Size) : Option Size := s.grow 1 (count * rangeBytes)

def branches (count : Nat) (s : Size) : Option Size := s.grow 0 (count * branchBytes)

end Size

/-- A part of an automaton ends in one state. The size of a part that is added comes with whether
that state branches, so that going on from it takes a way out. -/
abbrev Part := Bool × Size

namespace Part

def plainEnd (s : Size) : Part := (false, s)

def leave (part : Part) : Option Size :=
  if part.1 then part.2.branches 1 else some part.2

end Part

end DocQuery.Pattern.Automaton
