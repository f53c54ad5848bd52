/-!
The tokens of YAML, and places in a text that is read.
-/
namespace DocQuery.Yaml

inductive Token where
  | directive
  | documentStart
  | documentStop
  | blockList
  | blockMap
  | blockStop
  | flowList
  | flowListStop
  | flowMap
  | flowMapStop
  | item
  | comma
  | key
  | value
  | reference (name : String)
  | anchor (name : String)
  | tag (name : String)
  /-- Plain text may stand for other things than text. -/
  | scalar (plain : Bool) (text : String)
  | stop
deriving DecidableEq, Repr

def isBlank (c : Char) : Bool := c == ' ' || c == '\t'

def isBreak (c : Char) : Bool :=
  c == '\n' || c == '\r' || c == '\x85' || c == '\u2028' || c == '\u2029'

def isAllowed (c : Char) : Bool :=
  c == '\t' || c == '\n' || c == '\r' || (' ' ≤ c && c ≤ '~') || c == '\x85'
    || ('\xa0' ≤ c && c != '\ufeff' && c != '\ufffe' && c != '\uffff')

structure Cursor where
  rest : List Char
  index : Nat
  line : Nat
  column : Nat
deriving Repr

namespace Cursor

def start (text : String) : Cursor := ⟨text.toList, 0, 0, 0⟩

def head? (c : Cursor) : Option Char := c.rest.head?

def skip (c : Cursor) (count : Nat) : Cursor :=
  { c with rest := c.rest.drop count, index := c.index + count, column := c.column + count }

def skipBreak (c : Cursor) : Cursor :=
  let count := match c.rest with
    | '\r' :: '\n' :: _ => 2
    | _ => 1
  ⟨c.rest.drop count, c.index + count, c.line + 1, 0⟩

def breakText (b : Char) : Char := if b == '\u2028' || b == '\u2029' then b else '\n'

def endsWord (c : Cursor) (count : Nat) : Bool :=
  match c.rest.drop count with
  | [] => true
  | d :: _ => isBlank d || isBreak d

def marksDocument (c : Cursor) (sign : Char) : Bool :=
  c.column == 0 && c.rest.take 3 == [sign, sign, sign] && c.endsWord 3

def isAtMark (c : Cursor) : Bool := c.marksDocument '-' || c.marksDocument '.'

def skipWhile (c : Cursor) (p : Char → Bool) : Cursor := c.skip (c.rest.takeWhile p).length

def skipLine (c : Cursor) : Cursor := c.skipWhile fun d => !isBreak d

end Cursor

end DocQuery.Yaml
