import DocQuery.Pattern.Automaton.Characters
import DocQuery.Pattern.Automaton.Literals
import DocQuery.Pattern.Basic

/-!
The size of the automaton of a pattern. There are two automata: one reads a text forwards and notes
where captured groups start and end; the other one reads backwards and notes nothing.
-/
namespace DocQuery.Pattern

namespace Automaton

def addCopies (add : Size → Option Part) : Nat → Size → Option Part
  | 0, s => return .plainEnd (← s.plain 1)
  | 1, s => add s
  | count + 2, s => do addCopies add (count + 1) (← (← add s).leave)

/-- Adds copies of which each may be left out together with those after it. -/
def addOptional (add : Size → Option Part) : Nat → Part → Option Part
  | 0, before => before.leave.map .plainEnd
  | count + 1, before => do
    let s ← before.leave
    addOptional add count (← add (← (← s.plain 1).branches 2))

def addRepeated (add : Size → Option Part) (reads : Bool) (least : Nat) (most : Option Nat)
    (s : Size) : Option Part :=
  match least, most with
  | 0, some 1 => do
    let s ← (← add (← s.plain 1)).leave
    return .plainEnd (← (← s.plain 1).branches 2)
  | 0, none =>
    if reads then do
      let s ← (← add (← s.plain 1)).leave
      return (true, ← s.branches 1)
    else do
      let s ← (← add s).leave
      return .plainEnd (← (← s.plain 3).branches 4)
  | least, none => do
    let s ← (← addCopies add least s).leave
    return (true, ← (← s.plain 1).branches 1)
  | least, some most => do
    let (branches, s) ← addCopies add least s
    if least = most then return (branches, s)
    else addOptional add (most - least) (branches, ← s.plain 1)

def byteCodes (text : List Char) : List Nat :=
  text.flatMap fun c => (String.utf8EncodeChar c).map UInt8.toNat

def asLiteral? : Pattern → Option (List Nat)
  | .literal text => some (byteCodes text)
  | _ => none

mutual
def add (forward : Bool) : Pattern → Size → Option Part
  | .empty, s | .look _, s => return .plainEnd (← s.plain 1)
  | .literal text, s => return .plainEnd (← s.plain (byteLength text))
  | .set chars, s => addSet forward chars s
  | .capture _ p, s =>
    if forward then do
      let s ← (← add forward p (← s.plain 1)).leave
      return .plainEnd (← s.plain 1)
    else add forward p s
  | .repeated p least most _, s =>
    addRepeated (add forward p) (p.fewestBytes?.any (0 < ·)) least most s
  | .seq ps, s => addInOrder forward ps s
  | .alt ps, s =>
    match ps.mapM asLiteral? with
    | some texts => addChoiceOfLiterals (if forward then texts else texts.map List.reverse) s
    | none => addAmong forward 0 ps s

def addInOrder (forward : Bool) : List Pattern → Size → Option Part
  | [], s => return .plainEnd (← s.plain 1)
  | [p], s => add forward p s
  | p :: ps, s =>
    if forward then do addInOrder forward ps (← (← add forward p s).leave)
    else do add forward p (← (← addInOrder forward ps s).leave)

/-- Adds alternatives after those that are `before`. The states where they part and where they meet
come after the second one. -/
def addAmong (forward : Bool) (before : Nat) : List Pattern → Size → Option Part
  | [], s => some (.plainEnd s)
  | p :: ps, s => do
    let s ← (← add forward p s).leave
    let s ← (if before = 1 then s.plain 2 else some s)
    addAmong forward (before + 1) ps (← s.branches 1)
end

mutual
def isAtStart : Pattern → Bool
  | .look .start => true
  | .capture _ p => isAtStart p
  | .repeated p least _ _ => 0 < least && isAtStart p
  | .seq ps => beginsAtStart ps
  | .alt ps => areAtStart ps
  | _ => false

/-- In a sequence the items count up to the first one that may have a width. -/
def beginsAtStart : List Pattern → Bool
  | [] => false
  | p :: ps => isAtStart p || (p.isWidthless && beginsAtStart ps)

def areAtStart : List Pattern → Bool
  | [] => true
  | p :: ps => isAtStart p && areAtStart ps
end

mutual
def isAtEnd : Pattern → Bool
  | .look .stop => true
  | .capture _ p => isAtEnd p
  | .repeated p least _ _ => 0 < least && isAtEnd p
  | .seq ps => stopsAtEnd ps
  | .alt ps => areAtEnd ps
  | _ => false

def stopsAtEnd : List Pattern → Bool
  | [] => false
  | p :: ps => stopsAtEnd ps || (ps.all isWidthless && isAtEnd p)

def areAtEnd : List Pattern → Bool
  | [] => true
  | p :: ps => isAtEnd p && areAtEnd ps
end

def addFront (anchored : Bool) : Option Size :=
  if anchored then Size.zero.plain 1
  else do (← (← Size.zero.plain 2).ranges 1).branches 2

def forward? (p : Pattern) : Option Size := do
  let s ← (← add true (.capture 0 p) (← addFront (isAtStart p))).leave
  s.plain 1

def backward? (p : Pattern) : Option Size := do
  let s ← (← add false p (← addFront (isAtEnd p))).leave
  s.plain 1

/-- A choice of so many literals is not made into an automaton. -/
def manyLiterals : Nat := 3000

def isChoiceOfManyLiterals : Pattern → Bool
  | .alt ps => manyLiterals ≤ ps.length && ps.all fun p => (asLiteral? p).isSome
  | _ => false

def isSmall (p : Pattern) : Bool :=
  isChoiceOfManyLiterals p || ((forward? p).isSome && (backward? p).isSome)

end Automaton

end DocQuery.Pattern
