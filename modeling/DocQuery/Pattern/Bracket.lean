import DocQuery.Pattern.Escape
import DocQuery.Text.Scan

/-!
Sets in brackets: characters, ranges, escapes, named sets and further brackets, joined by set
operations that apply from left to right.
-/
namespace DocQuery.Pattern

inductive SetOperation where
  | inter
  | diff
  | symmDiff

def SetOperation.apply (f : Flags) (a b : CharSet) : SetOperation → CharSet
  | inter => (f.foldCase a).inter (f.foldCase b)
  | diff => (f.foldCase a).diff (f.foldCase b)
  | symmDiff => (f.foldCase a).symmDiff (f.foldCase b)

/-- How far the front of a bracket is read: a caret may come first, then hyphens that stand for
themselves, or a closing bracket that does. -/
inductive BracketStage where
  | caret
  | front
  | hyphens
  | inside

/-- A set, and how many brackets, unions and operations are nested in what it was read from. -/
structure NestedSet where
  set : CharSet
  depth : Nat

structure Items where
  intervals : List (List (Nat × Nat))
  count : Nat
  depth : Nat

namespace Items

def none : Items := ⟨[], 0, 0⟩

def push (is : Items) (s : NestedSet) : Items :=
  ⟨s.set.intervals :: is.intervals, is.count + 1, max is.depth s.depth⟩

def union (is : Items) : NestedSet :=
  ⟨.ofIntervals is.intervals.flatten, if 2 ≤ is.count then is.depth + 1 else is.depth⟩

end Items

/-- A bracket that is open: the set that an operation waits to be applied to, and the items after
that operation. -/
structure Bracket where
  stage : BracketStage
  negated : Bool
  pending : Option (NestedSet × SetOperation)
  items : Items

namespace Bracket

def opened : Bracket := ⟨.caret, false, none, .none⟩

def addNested (b : Bracket) (s : NestedSet) : Bracket :=
  { b with stage := .inside, items := b.items.push s }

def add (b : Bracket) (s : CharSet) : Bracket := b.addNested ⟨s, 0⟩

def value (f : Flags) (b : Bracket) : NestedSet :=
  match b.pending with
  | none => b.items.union
  | some (left, op) =>
    let right := b.items.union
    ⟨op.apply f left.set right.set, max left.depth right.depth + 1⟩

def operate (f : Flags) (b : Bracket) (op : SetOperation) : Bracket :=
  { b with stage := .inside, pending := some (b.value f, op), items := .none }

/-- Case is folded before the set is negated. -/
def finish? (f : Flags) (negated : Bool) (s : CharSet) : Option CharSet :=
  if !negated then some (f.foldCase s)
  else if f.unicode then some (f.foldCase s).compl
  else none

def takeItem? (f : Flags) : List Char → Option (Escape × List Char)
  | '\\' :: rest => Escape.take? f rest
  | c :: rest => some (.literal c false, rest)
  | [] => none

def end? (f : Flags) : Escape → Option Char
  | .literal c _ => if f.unicode || c.toNat < 128 then some c else none
  | _ => none

def ofEscape? (f : Flags) : Escape → Option CharSet
  | .set s => some s
  | e => (end? f e).map .single

def startsRange (f : Flags) : List Char → Bool
  | '-' :: rest =>
    match f.skip rest with
    | ']' :: _ | '-' :: _ => false
    | _ => true
  | _ => false

def takeRange? (f : Flags) (cs : List Char) : Option (CharSet × List Char) := do
  let (first, rest) ← takeItem? f cs
  let rest := f.skip rest
  if startsRange f rest then
    let (last, rest) ← takeItem? f (f.skip (rest.drop 1))
    let low ← end? f first
    let high ← end? f last
    guard (low ≤ high)
    return (.range low high, rest)
  else return (← ofEscape? f first, rest)

/-- A named set such as `[:alpha:]`, after its opening bracket. Anything else there is an ordinary
bracket. -/
def takeNamed? (cs : List Char) : Option (Bool × CharSet × List Char) := do
  let rest ← Scan.after? [':'] cs
  let (negated, rest) := match rest with
    | '^' :: rest => (true, rest)
    | rest => (false, rest)
  let name := String.ofList (rest.takeWhile (· != ':'))
  let rest ← Scan.after? [':', ']'] (rest.dropWhile (· != ':'))
  return (negated, ← CharSet.named.lookup name, rest)

abbrev Step := Option (((Bracket × List Bracket) ⊕ NestedSet) × List Char)

def close (f : Flags) (b : Bracket) (outer : List Bracket) (rest : List Char) : Step := do
  let inside := b.value f
  let s : NestedSet := ⟨← finish? f b.negated inside.set, inside.depth + 1⟩
  match outer with
  | [] => return (.inr s, rest)
  | parent :: outer => return (.inl (parent.addNested s, outer), rest)

def stepInside (f : Flags) (b : Bracket) (outer : List Bracket) : List Char → Step
  | '[' :: rest =>
    match takeNamed? rest with
    | some (negated, s, rest) => do
      let s ← finish? f negated s
      return (.inl (b.add s, outer), rest)
    | none => some (.inl (opened, { b with stage := .inside } :: outer), rest)
  | ']' :: rest => close f b outer rest
  | '&' :: '&' :: rest => some (.inl (b.operate f .inter, outer), rest)
  | '-' :: '-' :: rest => some (.inl (b.operate f .diff, outer), rest)
  | '~' :: '~' :: rest => some (.inl (b.operate f .symmDiff, outer), rest)
  | cs => (takeRange? f cs).map fun (s, rest) => (.inl (b.add s, outer), rest)

def step (f : Flags) : Bracket × List Bracket → List Char → Step
  | (b, outer), cs =>
    let cs := f.skip cs
    match b.stage, cs with
    | .caret, '^' :: rest => some (.inl ({ b with stage := .front, negated := true }, outer), rest)
    | .caret, '-' :: rest | .front, '-' :: rest | .hyphens, '-' :: rest =>
      some (.inl ({ b.add (.single '-') with stage := .hyphens }, outer), rest)
    | .caret, ']' :: rest | .front, ']' :: rest => some (.inl (b.add (.single ']'), outer), rest)
    | _, cs => stepInside f b outer cs

def take? (f : Flags) (cs : List Char) : Option (NestedSet × List Char) :=
  Scan.until? (step f) cs.length (opened, []) cs

end Bracket

end DocQuery.Pattern
