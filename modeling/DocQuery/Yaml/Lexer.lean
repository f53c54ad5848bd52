import DocQuery.Yaml.Scalar

/-!
Tokens from text. In blocks indentation opens and closes collections. What starts a line, or follows
a sign that begins an item, may turn out to be a key once a colon comes after it; its place among
the tokens is kept for that.
-/
namespace DocQuery.Yaml

structure KeyStart where
  place : Nat
  index : Nat
  line : Nat
  column : Nat
  /-- Whether nothing but a key can stand there. -/
  required : Bool

structure Lexer where
  cursor : Cursor
  /-- One more than the indentation of the innermost block; zero outside of blocks. -/
  level : Nat
  outerLevels : List Nat
  /-- For each open bracket, and before those for the blocks around them, where a key may have
  started last. -/
  keyStart : Option KeyStart
  outerKeyStarts : List (Option KeyStart)
  keyAllowed : Bool
  tokens : Array Token

namespace Lexer

/-- A key and the colon after it are on one line and not too far apart. -/
def maxKeyLength : Nat := 1024

def start (text : String) : Lexer := ⟨.start text, 0, [], none, [], true, #[]⟩

def inFlow (x : Lexer) : Bool := !x.outerKeyStarts.isEmpty

def push (x : Lexer) (t : Token) : Lexer := { x with tokens := x.tokens.push t }

def insert (x : Lexer) (place : Nat) (t : Token) : Lexer :=
  { x with
    tokens := (x.tokens.extract 0 place).push t ++ x.tokens.extract place x.tokens.size }

def dropKey? (x : Lexer) : Option Lexer :=
  if x.keyStart.any KeyStart.required then none else some { x with keyStart := none }

def saveKey? (x : Lexer) : Option Lexer :=
  if !x.keyAllowed then some x
  else do
    let x ← x.dropKey?
    let c := x.cursor
    return { x with
      keyStart := some
        ⟨x.tokens.size, c.index, c.line, c.column, !x.inFlow && x.level == c.column + 1⟩ }

def openBlock (x : Lexer) (column place : Nat) (t : Token) : Lexer :=
  if x.inFlow || column + 1 ≤ x.level then x
  else { x.insert place t with level := column + 1, outerLevels := x.level :: x.outerLevels }

def closeBlocks (x : Lexer) (level : Nat) : Lexer :=
  if x.inFlow then x
  else
    let deeper := (x.level :: x.outerLevels).takeWhile (level < ·)
    let others := (x.level :: x.outerLevels).dropWhile (level < ·)
    { x with
      tokens := x.tokens ++ Array.replicate deeper.length Token.blockStop
      level := others.headD 0
      outerLevels := others.drop 1 }

def skip (x : Lexer) (count : Nat) : Lexer := { x with cursor := x.cursor.skip count }

/-- Passes over blanks, comments and line breaks. Where a key may start in a block, a tab is none of
these. -/
def skipSpace : Nat → Lexer → Lexer
  | 0, x => x
  | fuel + 1, x =>
    let c := x.cursor.skipWhile fun d => d == ' ' || (d == '\t' && (x.inFlow || !x.keyAllowed))
    let c := if c.head? == some '#' then c.skipLine else c
    if c.head?.any isBreak then
      skipSpace fuel { x with cursor := c.skipBreak, keyAllowed := x.keyAllowed || !x.inFlow }
    else { x with cursor := c }

/-- A sign that stands alone among keys and items: it ends all blocks. -/
def takeMark? (x : Lexer) (t : Token) : Option Lexer := do
  let x ← (x.closeBlocks 0).dropKey?
  return ({ x with keyAllowed := false }.skip 3).push t

def takeDirective? (x : Lexer) : Option Lexer := do
  let x ← (x.closeBlocks 0).dropKey?
  let c := x.cursor.skipLine
  let words := (String.ofList (x.cursor.rest.takeWhile fun d => !isBreak d)).splitOn " "
  guard (words.filter (· != "") == ["%YAML", "1.1"] || words.filter (· != "") == ["%YAML", "1.2"])
  return { x with cursor := c, keyAllowed := false }.push .directive

def openFlow? (x : Lexer) (t : Token) : Option Lexer := do
  let x ← x.saveKey?
  return ({ x with
    keyStart := none
    outerKeyStarts := x.keyStart :: x.outerKeyStarts
    keyAllowed := true }.skip 1).push t

def closeFlow? (x : Lexer) (t : Token) : Option Lexer := do
  let x ← x.dropKey?
  let x := match x.outerKeyStarts with
    | outer :: others => { x with keyStart := outer, outerKeyStarts := others }
    | [] => x
  return ({ x with keyAllowed := false }.skip 1).push t

def takeComma? (x : Lexer) : Option Lexer := do
  let x ← x.dropKey?
  return ({ x with keyAllowed := true }.skip 1).push .comma

def takeItem? (x : Lexer) : Option Lexer := do
  guard (x.inFlow || x.keyAllowed)
  let x ← (x.openBlock x.cursor.column x.tokens.size .blockList).dropKey?
  return ({ x with keyAllowed := true }.skip 1).push .item

def takeKey? (x : Lexer) : Option Lexer := do
  guard (x.inFlow || x.keyAllowed)
  let x ← (x.openBlock x.cursor.column x.tokens.size .blockMap).dropKey?
  return ({ x with keyAllowed := !x.inFlow }.skip 1).push .key

def takeLoneValue? (x : Lexer) : Option Lexer := do
  let x ← x.dropKey?
  guard (x.inFlow || x.keyAllowed)
  let x := x.openBlock x.cursor.column x.tokens.size .blockMap
  return ({ x with keyAllowed := !x.inFlow }.skip 1).push .value

def takeValue? (x : Lexer) : Option Lexer :=
  match x.keyStart with
  | some k =>
    if k.line = x.cursor.line && x.cursor.index ≤ k.index + maxKeyLength then
      let x := (x.insert k.place .key).openBlock k.column k.place .blockMap
      some (({ x with keyStart := none, keyAllowed := false }.skip 1).push .value)
    else x.takeLoneValue?
  | none => x.takeLoneValue?

def isNameChar (c : Char) : Bool := c.isAlphanum || c == '_' || c == '-'

def afterName : List Char := ['?', ':', ',', ']', '\x7d', '%', '@', '\x60']

def takeName? (x : Lexer) (make : String → Token) : Option Lexer := do
  let x ← x.saveKey?
  let name := (x.cursor.rest.drop 1).takeWhile isNameChar
  let c := x.cursor.skip (name.length + 1)
  guard (!name.isEmpty && (c.endsWord 0 || c.head?.any afterName.contains))
  return { x with cursor := c, keyAllowed := false }.push (make (String.ofList name))

def takeTag? (x : Lexer) : Option Lexer := do
  let x ← x.saveKey?
  let name := (x.cursor.rest.drop 2).takeWhile isNameChar
  let c := x.cursor.skip (name.length + 2)
  guard ((x.cursor.rest.drop 1).head? == some '!' && !name.isEmpty)
  guard (c.endsWord 0 || (x.inFlow && c.head? == some ','))
  return { x with cursor := c, keyAllowed := false }.push (.tag (String.ofList name))

def takeBlockScalar? (x : Lexer) (folded : Bool) : Option Lexer := do
  let x ← x.dropKey?
  let s ← takeBlock? folded x.level (x.cursor.skip 1)
  return { x with cursor := s.next, keyAllowed := true }.push (.scalar false s.text)

def takeQuotedScalar? (x : Lexer) (quote : Char) : Option Lexer := do
  let x ← x.saveKey?
  let s ← takeQuoted? quote (x.cursor.rest.length + 1) [] .none (x.cursor.skip 1)
  return { x with cursor := s.next, keyAllowed := false }.push (.scalar false s.text)

def takePlainScalar? (x : Lexer) : Option Lexer := do
  let x ← x.saveKey?
  let s ← takePlain? ⟨x.inFlow, x.level⟩ (x.cursor.rest.length + 1) [] .none x.cursor
  return { x with cursor := s.next, keyAllowed := s.passedBreak }.push (.scalar true s.text)

def reserved : List Char :=
  ['-', '?', ':', ',', '[', ']', '\x7b', '\x7d', '#', '&', '*', '!', '|', '>', '\'', '"', '%', '@',
   '\x60']

def startsPlain (x : Lexer) (d : Char) : Bool :=
  let c := x.cursor
  if d == '-' then !(c.rest.drop 1).head?.any isBlank
  else if d == '?' || d == ':' then !x.inFlow && !c.endsWord 1
  else !isBlank d && !reserved.contains d

def next? (x : Lexer) : Option Lexer :=
  match x.cursor.rest with
  | [] => none
  | d :: _ =>
    let x := x.closeBlocks (x.cursor.column + 1)
    let c := x.cursor
    if c.column == 0 && d == '%' then x.takeDirective?
    else if c.marksDocument '-' then x.takeMark? .documentStart
    else if c.marksDocument '.' then x.takeMark? .documentStop
    else match d with
    | '[' => x.openFlow? .flowList
    | '\x7b' => x.openFlow? .flowMap
    | ']' => x.closeFlow? .flowListStop
    | '\x7d' => x.closeFlow? .flowMapStop
    | ',' => x.takeComma?
    | '*' => x.takeName? .reference
    | '&' => x.takeName? .anchor
    | '!' => x.takeTag?
    | '\'' | '"' => x.takeQuotedScalar? d
    | _ =>
      if d == '-' && c.endsWord 1 then x.takeItem?
      else if d == '?' && (x.inFlow || c.endsWord 1) then x.takeKey?
      else if d == ':' && (x.inFlow || c.endsWord 1) then x.takeValue?
      else if d == '|' && !x.inFlow then x.takeBlockScalar? false
      else if d == '>' && !x.inFlow then x.takeBlockScalar? true
      else if x.startsPlain d then x.takePlainScalar?
      else none

def run? : Nat → Lexer → Option (List Token)
  | 0, _ => none
  | fuel + 1, x =>
    let x := skipSpace (x.cursor.rest.length + 1) x
    if x.cursor.rest.isEmpty then
      ((x.closeBlocks 0).dropKey?).map fun x => (x.push .stop).tokens.toList
    else x.next?.bind (run? fuel)

end Lexer

def tokens? (text : String) : Option (List Token) :=
  let x := Lexer.start text
  if text.toList.all isAllowed then x.run? (x.cursor.rest.length + 1) else none

end DocQuery.Yaml
