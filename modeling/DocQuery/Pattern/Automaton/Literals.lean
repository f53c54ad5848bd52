import DocQuery.Pattern.Automaton.Size

/-!
The part of an automaton that reads one of several literals. Literals share states as long as they
begin alike, except that those after a literal that ends somewhere do not share states with those
before it.
-/
namespace DocQuery.Pattern.Automaton

def insertByFirst (text : List Nat) (groups : List (Nat × List (List Nat))) :
    List (Nat × List (List Nat)) :=
  match text, groups with
  | [], groups => groups
  | b :: rest, [] => [(b, [rest])]
  | b :: rest, (c, rests) :: groups =>
    if b = c then (c, rest :: rests) :: groups
    else (c, rests) :: insertByFirst (b :: rest) groups

/-- What goes on from a state: the groups before each literal that ends there, and those after the
last one. A second literal that ends there makes no difference before anything goes on. -/
def splitAtEnds (closed : List (List (List Nat))) (current : List (List Nat)) :
    List (List Nat) → List (List (List Nat))
  | [] => (current.reverse :: closed).reverse
  | [] :: texts =>
    if current.isEmpty && !closed.isEmpty && closed.all List.isEmpty then
      splitAtEnds closed current texts
    else splitAtEnds (current.reverse :: closed) [] texts
  | text :: texts => splitAtEnds closed (text :: current) texts

def addLiterals : (depth : Nat) → List (List Nat) → Size → Option Size
  | 0, _, s => some s
  | depth + 1, texts, s =>
    if texts.all List.isEmpty then some s else do
      let chunks := splitAtEnds [] [] texts
      let (used, s) ← chunks.foldlM (fun (used, s) chunk => do
        let groups := chunk.foldl (fun groups text => insertByFirst text groups) []
        let s ← groups.foldlM (fun s (_, rests) => addLiterals depth rests.reverse s) s
        match groups.length with
        | 0 => return (used, s)
        | 1 => return (used + 1, ← s.plain 1)
        | n => return (used + 1, ← s.ranges n)) (0, s)
      s.grow 1 ((used + chunks.length - 1) * branchBytes)

def addChoiceOfLiterals (texts : List (List Nat)) (s : Size) : Option Part := do
  let depth := (texts.map List.length).foldl max 0
  return .plainEnd (← addLiterals depth texts (← s.plain 1))

end DocQuery.Pattern.Automaton
