import DocQuery.Pattern.Basic

/-!
Searching for a pattern. A set of places in a text is a number whose bits say which places are in
it; a pattern takes the places where it may start to those where it may end.
-/
namespace DocQuery

def placesWhere : List Bool → Nat
  | [] => 0
  | b :: rest => (if b then 1 else 0) + 2 * placesWhere rest

namespace Look

def isWord (unicode : Bool) (c : Option Char) : Bool :=
  c.any (if unicode then CharSet.word else CharSet.asciiWord).holds

def holdsBetween (k : Look) (before after : Option Char) : Bool :=
  match k with
  | start => before.isNone
  | stop => after.isNone
  | lineStart => before.isNone || before == some '\n'
  | lineStop => after.isNone || after == some '\n'
  | anyLineStart =>
    before.isNone || before == some '\n' || (before == some '\r' && after != some '\n')
  | anyLineStop =>
    after.isNone || after == some '\r' || (after == some '\n' && before != some '\r')
  | boundary unicode => isWord unicode before != isWord unicode after
  | noBoundary unicode => isWord unicode before == isWord unicode after
  | wordStart unicode => !isWord unicode before && isWord unicode after
  | wordStop unicode => isWord unicode before && !isWord unicode after
  | noWordBefore unicode => !isWord unicode before
  | noWordAfter unicode => !isWord unicode after

def tests (k : Look) (before : Option Char) : List Char → List Bool
  | [] => [k.holdsBetween before none]
  | c :: rest => k.holdsBetween before (some c) :: k.tests (some c) rest

def places (k : Look) (text : List Char) : Nat := placesWhere (k.tests none text)

end Look

namespace Pattern

/-- The places after any number of steps from the places of `frontier`, which are among `reached`.
Each round reaches a new place or is the last, so there are no more rounds than places. -/
def closure (step : Nat → Nat) : Nat → Nat → Nat → Nat
  | 0, _, reached => reached
  | rounds + 1, frontier, reached =>
    let next := step frontier
    let all := reached ||| next
    if all = reached then reached else closure step rounds next all

/-- The places after exactly `count` steps. Once nothing changes the rest of the steps changes
nothing. -/
def iterate (step : Nat → Nat) : Nat → Nat → Nat
  | 0, places => places
  | count + 1, places =>
    let next := step places
    if next = places then places else iterate step count next

def upTo (step : Nat → Nat) : Nat → Nat → Nat → Nat
  | 0, _, reached => reached
  | count + 1, frontier, reached =>
    let next := step frontier
    let all := reached ||| next
    if all = reached then reached else upTo step count next all

def literalEnds (text : List Char) : List Char → Nat → Nat
  | [], starts => starts
  | c :: cs, starts =>
    if starts = 0 then 0
    else literalEnds text cs (2 * (starts &&& placesWhere (text.map (· == c))))

mutual
/-- Where the pattern may end if it may start at the places of `starts`. -/
def ends (text : List Char) : Pattern → Nat → Nat
  | empty, starts => starts
  | literal cs, starts => literalEnds text cs starts
  | set s, starts => 2 * (starts &&& placesWhere (s.tests text))
  | look k, starts => starts &&& k.places text
  | capture _ p, starts => ends text p starts
  | repeated p least most _, starts =>
    let first := iterate (ends text p) least starts
    match most with
    | none => closure (ends text p) (text.length + 1) first first
    | some most => upTo (ends text p) (most - least) first first
  | seq ps, starts => endsInOrder text ps starts
  | alt ps, starts => endsAmong text ps starts

def endsInOrder (text : List Char) : List Pattern → Nat → Nat
  | [], places => places
  | p :: ps, places => endsInOrder text ps (ends text p places)

def endsAmong (text : List Char) : List Pattern → Nat → Nat
  | [], _ => 0
  | p :: ps, starts => ends text p starts ||| endsAmong text ps starts
end

def isFoundIn (p : Pattern) (text : String) : Bool :=
  let chars := text.toList
  ends chars p ((1 <<< (chars.length + 1)) - 1) != 0

end Pattern

end DocQuery
