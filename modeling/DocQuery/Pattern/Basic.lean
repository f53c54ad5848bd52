import DocQuery.Pattern.Set

/-!
Patterns: regular expressions over characters, with assertions about the place where they are. The
functions that build them keep them small: literals side by side are one literal, alternatives that
are single characters are one set, and what all alternatives begin with stands before them.
-/
namespace DocQuery

/-- What an assertion asks of the characters before and after a place. Words are of Unicode
characters or of ASCII characters. -/
inductive Look where
  | start
  | stop
  | lineStart
  | lineStop
  /-- Lines that end with a carriage return, a line feed, or both in this order. -/
  | anyLineStart
  | anyLineStop
  | boundary (unicode : Bool)
  | noBoundary (unicode : Bool)
  | wordStart (unicode : Bool)
  | wordStop (unicode : Bool)
  | noWordBefore (unicode : Bool)
  | noWordAfter (unicode : Bool)
deriving DecidableEq, Repr

inductive Pattern where
  | empty
  | literal (text : List Char)
  | set (s : CharSet)
  | look (k : Look)
  | capture (index : Nat) (p : Pattern)
  /-- At least `least` times, and at most `most` times if that is given. -/
  | repeated (p : Pattern) (least : Nat) (most : Option Nat) (greedy : Bool)
  | seq (ps : List Pattern)
  | alt (ps : List Pattern)
deriving Repr

namespace Pattern

mutual
def same : Pattern → Pattern → Bool
  | empty, empty => true
  | literal s, literal t => s == t
  | set s, set t => s == t
  | look k, look l => k == l
  | capture i p, capture j q => i == j && same p q
  | repeated p a b g, repeated q c d h => a == c && b == d && g == h && same p q
  | seq ps, seq qs => sameAll ps qs
  | alt ps, alt qs => sameAll ps qs
  | _, _ => false

def sameAll : List Pattern → List Pattern → Bool
  | [], [] => true
  | p :: ps, q :: qs => same p q && sameAll ps qs
  | _, _ => false
end

def byteLength (text : List Char) : Nat := text.foldl (fun n c => n + c.utf8Size) 0

mutual
def fewestBytes? : Pattern → Option Nat
  | empty | look _ => some 0
  | literal text => some (byteLength text)
  | set s => s.intervals.head?.map fun i => (Char.ofNat i.1).utf8Size
  | capture _ p => p.fewestBytes?
  | repeated p least _ _ => p.fewestBytes?.map (· * least)
  | seq ps => fewestInOrder? ps
  | alt ps => fewestAmong? ps

def fewestInOrder? : List Pattern → Option Nat
  | [] => some 0
  | p :: ps => do return (← p.fewestBytes?) + (← fewestInOrder? ps)

def fewestAmong? : List Pattern → Option Nat
  | [] => none
  | [p] => p.fewestBytes?
  | p :: ps => do return min (← p.fewestBytes?) (← fewestAmong? ps)
end

mutual
def isWidthless : Pattern → Bool
  | empty | look _ => true
  | literal text => text.isEmpty
  | set _ => false
  | capture _ p => p.isWidthless
  | repeated p _ most _ => most.isSome && p.isWidthless
  | seq ps => areWidthless ps
  | alt ps => areWidthless ps

def areWidthless : List Pattern → Bool
  | [] => true
  | p :: ps => p.isWidthless && areWidthless ps
end

def ofSet (s : CharSet) : Pattern :=
  match s.single? with
  | some c => literal [c]
  | none => set s

def items : Pattern → List Pattern
  | seq ps => ps
  | empty => []
  | p => [p]

/-- Puts an item in front of others; a literal grows into the literal after it. -/
def prepend : Pattern → List Pattern → List Pattern
  | literal s, literal t :: ps => literal (s ++ t) :: ps
  | p, ps => p :: ps

def concat (ps : List Pattern) : Pattern :=
  match (ps.flatMap items).foldr prepend [] with
  | [] => empty
  | [p] => p
  | ps => seq ps

def branches : Pattern → List Pattern
  | alt ps => ps
  | p => [p]

def asSet? : Pattern → Option CharSet
  | set s => some s
  | literal [c] => some (.single c)
  | _ => none

def asSeq? : Pattern → Option (List Pattern)
  | seq ps => some ps
  | _ => none

def either (ps : List Pattern) : Pattern :=
  match ps.mapM asSet? with
  | some sets => ofSet (.join sets)
  | none => alt ps

def shared : List Pattern → List Pattern → List Pattern
  | p :: ps, q :: qs => if p.same q then p :: shared ps qs else []
  | _, _ => []

/-- Without any alternative nothing matches. If all alternatives are sequences, what they share at
their beginning comes first, and the alternatives are of their rests. -/
def choice (ps : List Pattern) : Pattern :=
  match ps.flatMap branches with
  | [] => set .empty
  | [p] => p
  | ps =>
    match ps.mapM asSeq? with
    | some (first :: others) =>
      let front := others.foldl shared first
      let rests := (first :: others).map fun ps => concat (ps.drop front.length)
      if front.isEmpty then alt ps else concat (front ++ [either (rests.flatMap branches)])
    | _ => either ps

/-- A pattern without width need not be repeated more than once. -/
def times (p : Pattern) (least : Nat) (most : Option Nat) (greedy : Bool) : Pattern :=
  let (least, most) :=
    if p.isWidthless then (min least 1, some (min (most.getD 1) 1)) else (least, most)
  if least = 0 ∧ most = some 0 then empty
  else if least = 1 ∧ most = some 1 then p
  else repeated p least most greedy

end Pattern

end DocQuery
