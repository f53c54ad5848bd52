import DocQuery.Toml.Quoted
import DocQuery.Toml.Scalar
import DocQuery.Toml.Tree
import DocQuery.Text.Scan

/-!
TOML texts: lines with keys and values, or with the headers of tables.
-/
namespace DocQuery.Toml

open Quoted (isBlank isControl)

def isBare (c : Char) : Bool := c.isAlphanum || c == '-' || c == '_'

def skipBlanks (cs : List Char) : List Char := cs.dropWhile isBlank

def takePart? : List Char → Option (String × List Char)
  | '"' :: rest => Quoted.takeBasic? [] rest
  | '\'' :: rest => Quoted.takeLiteral? [] rest
  | cs =>
    let bare := cs.takeWhile isBare
    if bare.isEmpty then none else some (String.ofList bare, cs.dropWhile isBare)

/-- At most `parts` parts with dots between them, as those before the last and the last. -/
def takeKey? : Nat → List Char → Option (List String × String × List Char)
  | 0, _ => none
  | parts + 1, cs => do
    let (part, rest) ← takePart? (skipBlanks cs)
    match skipBlanks rest with
    | '.' :: rest => do
      let (path, key, rest) ← takeKey? parts rest
      return (part :: path, key, rest)
    | rest => return ([], part, rest)

def skipComment? (cs : List Char) : Option (List Char) :=
  let rest := cs.dropWhile fun c => !isControl c
  match rest with
  | [] | '\n' :: _ | '\r' :: '\n' :: _ => some rest
  | _ => none

def skipSpace? : Nat → List Char → Option (List Char)
  | 0, cs => some cs
  | steps + 1, cs =>
    match skipBlanks cs with
    | '\n' :: rest | '\r' :: '\n' :: rest => skipSpace? steps rest
    | '#' :: rest => (skipComment? rest).bind (skipSpace? steps)
    | rest => some rest

def maxDepth : Nat := 80

def maxPath : Nat := 80

mutual
/-- Fuel counts the values that are opened around and before one another, and no text has more of
them than characters. At most `depth` arrays and tables may be opened within one another. -/
def takeValue? : Nat → Nat → List Char → Option (Tree × List Char)
  | 0, _, _ => none
  | fuel + 1, depth, cs =>
    match cs with
    | '"' :: '"' :: '"' :: rest =>
      (Quoted.takeBasicBlock? false [] (Quoted.afterBreak rest)).map fun (s, rest) =>
        (.text s, rest)
    | '"' :: rest => (Quoted.takeBasic? [] rest).map fun (s, rest) => (.text s, rest)
    | '\'' :: '\'' :: '\'' :: rest =>
      (Quoted.takeLiteralBlock? [] (Quoted.afterBreak rest)).map fun (s, rest) => (.text s, rest)
    | '\'' :: rest => (Quoted.takeLiteral? [] rest).map fun (s, rest) => (.text s, rest)
    | '[' :: rest => if depth = 0 then none else takeItems? fuel (depth - 1) [] rest
    | '\x7b' :: rest => if depth = 0 then none else takeMembers? fuel (depth - 1) [] rest
    | cs => (Scalar.take? cs).map fun rest => (.scalar, rest)

def takeItems? : Nat → Nat → List Tree → List Char → Option (Tree × List Char)
  | 0, _, _, _ => none
  | fuel + 1, depth, reversed, cs => do
    match ← skipSpace? cs.length cs with
    | ']' :: rest => return (.array reversed.reverse, rest)
    | cs =>
      let (item, rest) ← takeValue? fuel depth cs
      match ← skipSpace? rest.length rest with
      | ',' :: rest => takeItems? fuel depth (item :: reversed) rest
      | ']' :: rest => return (.array (item :: reversed).reverse, rest)
      | _ => none

def takeMembers? : Nat → Nat → Members → List Char → Option (Tree × List Char)
  | 0, _, _, _ => none
  | fuel + 1, depth, members, cs => do
    match ← skipSpace? cs.length cs with
    | '\x7d' :: rest => return (.table .closed members, rest)
    | cs =>
      let (path, key, rest) ← takeKey? (maxPath + 1) cs
      match ← skipSpace? rest.length rest with
      | '=' :: rest =>
        let (value, rest) ← takeValue? fuel depth (← skipSpace? rest.length rest)
        let members ← members.defineAt? path key value
        match ← skipSpace? rest.length rest with
        | ',' :: rest => takeMembers? fuel depth members rest
        | '\x7d' :: rest => return (.table .closed members, rest)
        | _ => none
      | _ => none
end

def finishLine? (cs : List Char) : Option (List Char) :=
  match skipBlanks cs with
  | '#' :: rest => skipComment? rest
  | [] => some []
  | '\n' :: rest => some ('\n' :: rest)
  | '\r' :: '\n' :: rest => some ('\r' :: '\n' :: rest)
  | _ => none

structure State where
  header : List String
  root : Members

def State.open? (s : State) (change : String → Members → Option Members)
    (path : List String) (key : String) : Option State := do
  let root ← s.root.enter? false (change key) path
  return ⟨path ++ [key], root⟩

def State.define? (s : State) (path : List String) (key : String) (value : Tree) :
    Option State := do
  let root ← s.root.enter? false (Members.defineAt? path key value) s.header
  return { s with root }

def step (s : State) : List Char → Option (State × List Char)
  | '\n' :: rest | '\r' :: '\n' :: rest => some (s, rest)
  | '#' :: rest => do return (s, ← skipComment? rest)
  | '[' :: '[' :: rest => do
    match ← takeKey? (maxPath + 1) rest with
    | (path, key, ']' :: ']' :: rest) =>
      return (← s.open? Members.openNext? path key, ← finishLine? rest)
    | _ => none
  | '[' :: rest => do
    match ← takeKey? (maxPath + 1) rest with
    | (path, key, ']' :: rest) =>
      return (← s.open? Members.openTable? path key, ← finishLine? rest)
    | _ => none
  | c :: cs =>
    if isBlank c then some (s, cs)
    else do
      match ← takeKey? (maxPath + 1) (c :: cs) with
      | (path, key, '=' :: rest) =>
        let (value, rest) ← takeValue? (rest.length + 1) maxDepth (skipBlanks rest)
        return (← s.define? path key value, ← finishLine? rest)
      | _ => none
  | [] => some (s, [])

def read? (text : String) : Option Members :=
  let cs := match text.toList with
    | '\uFEFF' :: cs => cs
    | cs => cs
  (Scan.run step ⟨[], []⟩ cs).map State.root

end DocQuery.Toml
