import DocQuery.Text.Digits
import DocQuery.Yaml.Token

/-!
Scalars: plain, in quotes, and in blocks of lines. Over several lines a single line break counts as
a space, and of more breaks the first one falls away.
-/
namespace DocQuery.Yaml

/-- Blanks and line breaks after some text, the latest first. Blanks count only before a break. -/
structure Gap where
  /-- A break that was escaped counts as nothing. -/
  escaped : Bool
  blanks : List Char
  breaks : List Char

namespace Gap

def none : Gap := ⟨false, [], []⟩

def isNone (g : Gap) : Bool := g.blanks.isEmpty && g.breaks.isEmpty && !g.escaped

def hasBreak (g : Gap) : Bool := g.escaped || !g.breaks.isEmpty

def text (g : Gap) : List Char :=
  if g.escaped then g.breaks
  else
    match g.breaks.reverse with
    | [] => g.blanks
    | ['\n'] => [' ']
    | '\n' :: more => more.reverse
    | _ => g.breaks

def add (g : Gap) (c : Char) : Gap :=
  if isBreak c then { g with blanks := [], breaks := Cursor.breakText c :: g.breaks }
  else if g.hasBreak then g
  else { g with blanks := c :: g.blanks }

end Gap

def Cursor.past (c : Cursor) (d : Char) : Cursor := if isBreak d then c.skipBreak else c.skip 1

structure Context where
  flow : Bool
  level : Nat

def isFlowSign (c : Char) : Bool := c == ',' || c == '[' || c == ']' || c == '\x7b' || c == '\x7d'

structure Scanned where
  text : String
  /-- Whether the scanner stopped on another line than the last one of the text. -/
  passedBreak : Bool
  next : Cursor

/-- Plain text goes on to a colon before a blank, a number sign after one, a line with too small an
indentation, or a sign of the brackets that it is in. -/
def takePlain? (ctx : Context) : Nat → List Char → Gap → Cursor → Option Scanned
  | 0, _, _, _ => none
  | fuel + 1, text, gap, c =>
    let finished : Option Scanned := some ⟨String.ofList text.reverse, gap.hasBreak, c⟩
    match c.rest with
    | [] => finished
    | d :: rest =>
      if isBlank d || isBreak d then
        if gap.hasBreak && c.column < ctx.level && d == '\t' then none
        else takePlain? ctx fuel text (gap.add d) (c.past d)
      else if (!ctx.flow && gap.hasBreak && c.column < ctx.level) || c.isAtMark
          || (d == '#' && !gap.isNone) then finished
      else if d == ':' && c.endsWord 1 then finished
      else if ctx.flow && d == ':' && rest.head?.any (fun e => isFlowSign e || e == '?') then none
      else if ctx.flow && isFlowSign d then finished
      else takePlain? ctx fuel (d :: (gap.text ++ text)) .none (c.skip 1)

def escapes : List (Char × Char) :=
  [('0', '\x00'), ('a', '\x07'), ('b', '\x08'), ('t', '\t'), ('\t', '\t'), ('n', '\n'),
   ('v', '\x0b'), ('f', '\x0c'), ('r', '\r'), ('e', '\x1b'), (' ', ' '), ('"', '"'), ('/', '/'),
   ('\\', '\\'), ('N', '\x85'), ('_', '\xa0'), ('L', '\u2028'), ('P', '\u2029')]

def codeWidth? (c : Char) : Option Nat := [('x', 2), ('u', 4), ('U', 8)].lookup c

def escape? : List Char → Option (Char × Nat)
  | [] => none
  | c :: rest =>
    match codeWidth? c with
    | none => (escapes.lookup c).map fun d => (d, 1)
    | some width => do
      guard (width ≤ rest.length)
      let n ← Text.readHex? (rest.take width)
      guard n.isValidChar
      return (Char.ofNat n, width + 1)

/-- Reads what stands between quotes, after the first one. Only in double quotes there are escapes;
in single quotes a quote is written twice. -/
def takeQuoted? (quote : Char) : Nat → List Char → Gap → Cursor → Option Scanned
  | 0, _, _, _ => none
  | fuel + 1, text, gap, c =>
    match c.rest with
    | [] => none
    | d :: rest =>
      if isBlank d || isBreak d then takeQuoted? quote fuel text (gap.add d) (c.past d)
      else if c.isAtMark then none
      else
        let text := gap.text ++ text
        if d == quote then
          if quote == '\'' && rest.head? == some '\'' then
            takeQuoted? quote fuel ('\'' :: text) .none (c.skip 2)
          else some ⟨String.ofList text.reverse, false, c.skip 1⟩
        else if quote == '"' && d == '\\' then
          match rest.head? with
          | some e =>
            if isBreak e then takeQuoted? quote fuel text ⟨true, [], []⟩ (c.skip 1).skipBreak
            else
              match escape? rest with
              | some (e, count) => takeQuoted? quote fuel (e :: text) .none (c.skip (count + 1))
              | none => none
          | none => none
        else takeQuoted? quote fuel (d :: text) .none (c.skip 1)

inductive Chomp where
  | strip
  | clip
  | keep
deriving DecidableEq

def chomp? : List Char → Option Chomp
  | '-' :: _ => some .strip
  | '+' :: _ => some .keep
  | _ => none

def increment? : List Char → Option Nat
  | c :: _ => if c.isDigit then some (c.toNat - '0'.toNat) else none
  | [] => none

def header (c : Cursor) : Chomp × Option Nat × Cursor :=
  match chomp? c.rest, increment? c.rest with
  | some chomp, _ =>
    let c := c.skip 1
    match increment? c.rest with
    | some n => (chomp, some n, c.skip 1)
    | none => (chomp, none, c)
  | none, some n =>
    let c := c.skip 1
    match chomp? c.rest with
    | some chomp => (chomp, some n, c.skip 1)
    | none => (.clip, some n, c)
  | none, none => (.clip, none, c)

/-- Passes over indentation and empty lines. Returns the line breaks, the latest first, and the
deepest column; as long as no indentation is given any is passed over. -/
def takeEmptyLines? (indent : Option Nat) :
    Nat → List Char → Nat → Cursor → Option (List Char × Nat × Cursor)
  | 0, _, _, _ => none
  | fuel + 1, breaks, deepest, c =>
    let isIndentation := indent.all (c.column < ·)
    match c.rest with
    | ' ' :: _ =>
      if isIndentation then takeEmptyLines? indent fuel breaks deepest (c.skip 1)
      else some (breaks, max deepest c.column, c)
    | '\t' :: _ => if isIndentation then none else some (breaks, max deepest c.column, c)
    | d :: _ =>
      if isBreak d then
        takeEmptyLines? indent fuel (Cursor.breakText d :: breaks) (max deepest c.column)
          c.skipBreak
      else some (breaks, max deepest c.column, c)
    | [] => some (breaks, max deepest c.column, c)

/-- The lines of a block. `before` is the break that ended the line before, and `breaks` are those
of empty lines after it; all texts have their last character first. In a folded block a single break
between lines that do not start with a blank is a space. -/
def takeLines? (folded : Bool) (indent : Nat) (chomp : Chomp) :
    Nat → List Char → List Char → List Char → Bool → Cursor → Option Scanned
  | 0, _, _, _, _, _ => none
  | fuel + 1, text, before, breaks, blankBefore, c =>
    if c.column = indent ∧ !c.rest.isEmpty then do
      let startsBlank := c.head?.any isBlank
      let text :=
        if folded && before == ['\n'] && !blankBefore && !startsBlank then
          (if breaks.isEmpty then [' '] else breaks) ++ text
        else breaks ++ before ++ text
      let line := c.rest.takeWhile fun d => !isBreak d
      let c := c.skip line.length
      let before := (c.head?.map Cursor.breakText).toList
      let c := if before.isEmpty then c else c.skipBreak
      let (breaks, _, c) ← takeEmptyLines? (some indent) (c.rest.length + 1) [] 0 c
      takeLines? folded indent chomp fuel (line.reverse ++ text) before breaks startsBlank c
    else
      let text := match chomp with
        | .strip => text
        | .clip => before ++ text
        | .keep => breaks ++ before ++ text
      some ⟨String.ofList text.reverse, true, c⟩

def takeBlock? (folded : Bool) (level : Nat) (c : Cursor) : Option Scanned := do
  let (chomp, increment, c) := header c
  guard (increment != some 0)
  let c := c.skipWhile isBlank
  let c := if c.head? == some '#' then c.skipLine else c
  guard (c.head?.all isBreak)
  let c := if c.rest.isEmpty then c else c.skipBreak
  let indent := increment.map fun n => level - 1 + n
  let (breaks, deepest, c) ← takeEmptyLines? indent (c.rest.length + 1) [] 0 c
  let indent := indent.getD (max (max deepest level) 1)
  takeLines? folded indent chomp (c.rest.length + 2) [] [] breaks false c

end DocQuery.Yaml
