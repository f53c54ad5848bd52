import DocQuery.Yaml.Lexer

/-!
What a text in YAML describes: scalars, lists, and entries that are found by keys.
-/
namespace DocQuery.Yaml

inductive Node where
  | scalar (plain : Bool) (text : String)
  | list (items : List Node)
  | map (entries : List (Node × Node))
deriving Repr

namespace Node

def nothing : Node := scalar true ""

structure Rest where
  tokens : List Token
  named : List (String × Node)

abbrev Read := StateT Rest Option

def peek : Read Token := fun s => (s.tokens.head?).map fun t => (t, s)

def drop : Read Unit := fun s => some ((), { s with tokens := s.tokens.drop 1 })

def takeIf (t : Token) : Read Bool := do
  if (← peek) == t then
    drop
    return true
  else return false

def expect (t : Token) : Read Unit := do
  guard (← takeIf t)

def define (name : Option String) (node : Node) : Read Unit := fun s =>
  match name with
  | some name => some ((), { s with named := (name, node) :: s.named })
  | none => some ((), s)

def find (name : String) : Read Node := fun s => (s.named.lookup name).map fun node => (node, s)

structure Properties where
  anchor : Option String
  tag : Option String

def takeProperties : Nat → Properties → Read Properties
  | 0, p => return p
  | fuel + 1, p => do
    match ← peek, p with
    | .anchor name, ⟨none, tag⟩ => drop; takeProperties fuel ⟨some name, tag⟩
    | .tag name, ⟨anchor, none⟩ => drop; takeProperties fuel ⟨anchor, some name⟩
    | _, p => return p

/-- Tags of values that are written plain; other tags make a scalar text. -/
def plainTags : List String := ["null", "bool", "int", "float"]

def tagged (tag : Option String) : Node → Node
  | scalar plain text => scalar (tag.elim plain plainTags.contains) text
  | node => node

def nothingIf (allowed : Bool) : Read Node := do
  guard allowed
  return nothing

mutual
/-- A node; in a block its collections may be blocks. Items of a list that is the value of a key may
be no deeper than the key, where `items` holds. -/
def take : Nat → (block items : Bool) → Read Node
  | 0, _, _ => failure
  | fuel + 1, block, items => do
    if let .reference name ← peek then
      drop
      find name
    else
      let p ← takeProperties 2 ⟨none, none⟩
      let node ← takeContent fuel block items (p.anchor.isSome || p.tag.isSome)
      let node := node.tagged p.tag
      define p.anchor node
      return node

def takeContent : Nat → (block items mayBeEmpty : Bool) → Read Node
  | 0, _, _, _ => failure
  | fuel + 1, block, items, mayBeEmpty => do
    match ← peek with
    | .scalar plain text => drop; return scalar plain text
    | .flowList => drop; return list (← takeFlowItems fuel true)
    | .flowMap => drop; return map (← takeFlowEntries fuel true)
    | .item => if items then return list (← takeItems fuel true) else nothingIf mayBeEmpty
    | .blockList =>
      if block then drop; return list (← takeItems fuel false) else nothingIf mayBeEmpty
    | .blockMap => if block then drop; return map (← takeEntries fuel) else nothingIf mayBeEmpty
    | _ => nothingIf mayBeEmpty

def takeItems : Nat → (alone : Bool) → Read (List Node)
  | 0, _ => failure
  | fuel + 1, alone => do
    if ← takeIf .item then
      let t ← peek
      let isEmpty := t == .item || t == .blockStop || (alone && (t == .key || t == .value))
      let node ← if isEmpty then pure nothing else take fuel true false
      return node :: (← takeItems fuel alone)
    else
      if !alone then expect .blockStop
      return []

def takeEntries : Nat → Read (List (Node × Node))
  | 0 => failure
  | fuel + 1 => do
    if ← takeIf .key then
      let key ← takeUnless fuel true [.key, .value, .blockStop]
      let value ←
        if ← takeIf .value then takeUnless fuel true [.key, .value, .blockStop] else pure nothing
      return (key, value) :: (← takeEntries fuel)
    else
      expect .blockStop
      return []

def takeUnless : Nat → (block : Bool) → List Token → Read Node
  | 0, _, _ => failure
  | fuel + 1, block, stops => do
    if stops.contains (← peek) then return nothing else take fuel block block

def takeFlowItems : Nat → (first : Bool) → Read (List Node)
  | 0, _ => failure
  | fuel + 1, first => do
    if ← takeIf .flowListStop then return []
    if !first then expect .comma
    if ← takeIf .flowListStop then return []
    let node ←
      if ← takeIf .key then
        let key ← takeUnless fuel false [.value, .comma, .flowListStop]
        let value ←
          if ← takeIf .value then takeUnless fuel false [.comma, .flowListStop] else pure nothing
        pure (map [(key, value)])
      else take fuel false false
    return node :: (← takeFlowItems fuel false)

def takeFlowEntries : Nat → (first : Bool) → Read (List (Node × Node))
  | 0, _ => failure
  | fuel + 1, first => do
    if ← takeIf .flowMapStop then return []
    if !first then expect .comma
    if ← takeIf .flowMapStop then return []
    let isKey ← takeIf .key
    let key ←
      if isKey then takeUnless fuel false [.value, .comma, .flowMapStop] else take fuel false false
    let value ←
      if isKey && (← takeIf .value) then takeUnless fuel false [.comma, .flowMapStop]
      else pure nothing
    return (key, value) :: (← takeFlowEntries fuel false)
end

def dropStops : Nat → Read Unit
  | 0 => failure
  | fuel + 1 => do if ← takeIf .documentStop then dropStops fuel

def takeDocument (fuel : Nat) : Read Node := do
  let stated ← takeIf .directive
  let started ← takeIf .documentStart
  guard (started || !stated)
  let stops : List Token :=
    if started then [.directive, .documentStart, .documentStop, .stop] else [.stop]
  let node ← takeUnless fuel true stops
  dropStops fuel
  expect .stop
  return node

def ofTokens? (ts : List Token) : Option Node :=
  (takeDocument (3 * ts.length + 3) ⟨ts, []⟩).map Prod.fst

def read? (text : String) : Option Node := (tokens? text).bind ofTokens?

end Node

end DocQuery.Yaml
