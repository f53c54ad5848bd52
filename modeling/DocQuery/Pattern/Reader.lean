import DocQuery.Number.Word
import DocQuery.Pattern.Automaton.Build
import DocQuery.Pattern.Bracket

/-!
Reading patterns. The reader keeps the groups that are open; each has the alternatives before the
present one and the items of that one. Patterns that nest too deeply are refused, and patterns with
too large an automaton.
-/
namespace DocQuery.Pattern

structure Item where
  /-- There is none where flags were set, which cannot be repeated. -/
  pattern? : Option Pattern
  /-- How many groups, repetitions, brackets, sequences and choices are nested in it. -/
  depth : Nat

def maxDepth : Nat := 250

/-- How deep several parts nest together. One part alone is no sequence and no choice. -/
def depthOf : List Item → Nat
  | [] => 0
  | [i] => i.depth
  | is => is.foldl (fun depth i => max depth i.depth) 0 + 1

structure Group where
  index : Option Nat
  /-- The flags outside, which come back when the group closes. -/
  outer : Flags
  branches : List Item
  items : List Item

namespace Group

def opened (index : Option Nat) (outer : Flags) : Group := ⟨index, outer, [], []⟩

def push (g : Group) (item : Item) : Group := { g with items := item :: g.items }

def branch (g : Group) : Item :=
  ⟨some (concat (g.items.reverse.filterMap Item.pattern?)), depthOf g.items⟩

def nextBranch (g : Group) : Group := { g with branches := g.branch :: g.branches, items := [] }

def inside (g : Group) : Item :=
  let branches := (g.branch :: g.branches).reverse
  ⟨some (choice (branches.filterMap Item.pattern?)), depthOf branches⟩

def item (g : Group) : Item :=
  let inside := g.inside
  match g.index with
  | some n => ⟨inside.pattern?.map (capture n), inside.depth + 1⟩
  | none => ⟨inside.pattern?, inside.depth + 1⟩

def repeat? (g : Group) (least : Nat) (most : Option Nat) (greedy : Bool) : Option Group :=
  match g.items with
  | ⟨some p, depth⟩ :: items =>
    if depth < maxDepth then
      some { g with items := ⟨some (p.times least most greedy), depth + 1⟩ :: items }
    else none
  | _ => none

end Group

structure State where
  flags : Flags
  group : Group
  outer : List Group
  captures : Nat
  names : List String

namespace State

def initial : State := ⟨.initial, .opened none .initial, [], 0, []⟩

def push (s : State) (p : Pattern) : State := { s with group := s.group.push ⟨some p, 0⟩ }

def openGroup (s : State) (index : Option Nat) (flags : Flags) : State :=
  { s with flags, group := .opened index s.flags, outer := s.group :: s.outer }

def openCapture (s : State) : State :=
  { s.openGroup (some (s.captures + 1)) s.flags with captures := s.captures + 1 }

def closeGroup? (s : State) : Option State :=
  match s.outer with
  | [] => none
  | parent :: outer =>
    let item := s.group.item
    if item.depth ≤ maxDepth then
      some { s with flags := s.group.outer, group := parent.push item, outer }
    else none

def setFlags (s : State) (flags : Flags) : State :=
  { s with flags, group := s.group.push ⟨none, 0⟩ }

def repeat? (s : State) (least : Nat) (most : Option Nat) (lazy : Bool) : Option State :=
  (s.group.repeat? least most (lazy == s.flags.swapGreed)).map fun group => { s with group }

def takeRepeat? (s : State) (least : Nat) (most : Option Nat) (rest : List Char) :
    Option (State × List Char) :=
  match rest with
  | '?' :: rest => (s.repeat? least most true).map fun s => (s, rest)
  | rest => (s.repeat? least most false).map fun s => (s, rest)

end State

def takeCount? (f : Flags) (cs : List Char) : Option (Nat × List Char) := do
  let (digits, rest) := f.takeWhile Char.isDigit (cs.dropWhile Unicode.isSpace)
  let n ← Text.readNat? digits
  guard (n ≤ Word.maxWord32)
  return (n, f.skip (rest.dropWhile Unicode.isSpace))

def takeCounts? (f : Flags) (cs : List Char) : Option (Nat × Option Nat × List Char) := do
  let (least, rest) ← takeCount? f (f.skip cs)
  match rest with
  | '\x7d' :: rest => return (least, some least, rest)
  | ',' :: rest =>
    match f.skip rest with
    | '\x7d' :: rest => return (least, none, rest)
    | rest =>
      let (most, rest) ← takeCount? f rest
      match rest with
      | '\x7d' :: rest => if least ≤ most then return (least, some most, rest) else none
      | _ => none
  | _ => none

def isNameStart (c : Char) : Bool := c == '_' || Unicode.isAlphabetic c

def isNameChar (c : Char) : Bool :=
  Unicode.isAlphanumeric c || c == '_' || c == '.' || c == '[' || c == ']'

def takeName? (cs : List Char) : Option (String × List Char) :=
  let name := cs.takeWhile (· != '>')
  match name, cs.dropWhile (· != '>') with
  | first :: others, _ :: rest =>
    if isNameStart first && others.all isNameChar then some (String.ofList name, rest) else none
  | _, _ => none

def State.openNamed? (s : State) (cs : List Char) : Option (State × List Char) := do
  let (name, rest) ← takeName? cs
  if s.names.contains name then none
  else return ({ s.openCapture with names := name :: s.names }, rest)

/-- Reads what follows an opening parenthesis. There is no looking around. -/
def State.takeOpening? (s : State) (cs : List Char) : Option (State × List Char) :=
  match s.flags.skip cs with
  | '?' :: '=' :: _ | '?' :: '!' :: _ | '?' :: '<' :: '=' :: _ | '?' :: '<' :: '!' :: _ => none
  | '?' :: 'P' :: '<' :: rest | '?' :: '<' :: rest => s.openNamed? rest
  | '?' :: rest =>
    match takeFlags? false false [] s.flags rest with
    | some (flags, _, true, rest) => some (s.openGroup none flags, rest)
    | some (_, [], false, _) => none
    | some (flags, _, false, rest) => some (s.setFlags flags, rest)
    | none => none
  | rest => some (s.openCapture, rest)

def ofEscape? (f : Flags) : Escape → Option Pattern
  | .set s => some (.ofSet s)
  | .look k => some (.look k)
  | .literal c asByte => if asByte && !f.unicode && 128 ≤ c.toNat then none else some (f.literal c)

def State.step (s : State) (cs : List Char) : Option (State × List Char) :=
  match cs with
  | [] => some (s, [])
  | '(' :: rest => s.takeOpening? rest
  | ')' :: rest => s.closeGroup?.map fun s => (s, rest)
  | '|' :: rest => some ({ s with group := s.group.nextBranch }, rest)
  | '[' :: rest => do
    let (chars, rest) ← Bracket.take? s.flags rest
    guard (chars.depth ≤ maxDepth)
    return ({ s with group := s.group.push ⟨some (.ofSet chars.set), chars.depth⟩ }, rest)
  | '?' :: rest => s.takeRepeat? 0 (some 1) rest
  | '*' :: rest => s.takeRepeat? 0 none rest
  | '+' :: rest => s.takeRepeat? 1 none rest
  | '\x7b' :: rest => do
    let (least, most, rest) ← takeCounts? s.flags rest
    s.takeRepeat? least most (s.flags.skip rest)
  | '\\' :: rest => do
    let (e, rest) ← Escape.take? s.flags rest
    return (s.push (← ofEscape? s.flags e), rest)
  | '.' :: rest => s.flags.dot?.map fun p => (s.push p, rest)
  | '^' :: rest => some (s.push (.look s.flags.caret), rest)
  | '$' :: rest => some (s.push (.look s.flags.dollar), rest)
  | c :: rest => some (s.push (s.flags.literal c), rest)

def State.stepVerbose (s : State) (cs : List Char) : Option (State × List Char) :=
  s.step (s.flags.skip cs)

def read? (text : String) : Option Pattern := do
  let s ← Scan.run State.stepVerbose .initial text.toList
  guard s.outer.isEmpty
  let whole := s.group.inside
  guard (whole.depth ≤ maxDepth)
  let p ← whole.pattern?
  guard (Automaton.isSmall p)
  return p

end DocQuery.Pattern
