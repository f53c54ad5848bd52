import DocQuery.Pattern.Basic
import DocQuery.Unicode.Fold

/-!
Flags, which say how the rest of a pattern is read, and characters that a verbose pattern passes
over.
-/
namespace DocQuery.Pattern

structure Flags where
  caseless : Bool
  multiLine : Bool
  dotAll : Bool
  /-- Repetitions take as little as they can, and those marked with a question mark as much. -/
  swapGreed : Bool
  unicode : Bool
  anyLineEnd : Bool
  verbose : Bool
deriving DecidableEq, Repr

namespace Flags

def initial : Flags := ⟨false, false, false, false, true, false, false⟩

def letters : List Char := ['i', 'm', 's', 'U', 'u', 'R', 'x']

def put (f : Flags) (letter : Char) (on : Bool) : Flags :=
  match letter with
  | 'i' => { f with caseless := on }
  | 'm' => { f with multiLine := on }
  | 's' => { f with dotAll := on }
  | 'U' => { f with swapGreed := on }
  | 'u' => { f with unicode := on }
  | 'R' => { f with anyLineEnd := on }
  | 'x' => { f with verbose := on }
  | _ => f

def skipSpace (inComment : Bool) : List Char → List Char
  | [] => []
  | c :: cs =>
    if inComment then skipSpace (c != '\n') cs
    else if Unicode.isSpace c then skipSpace false cs
    else if c = '#' then skipSpace true cs
    else c :: cs

def skip (f : Flags) (cs : List Char) : List Char :=
  if f.verbose then skipSpace false cs else cs

def takeSpaced (p : Char → Bool) (inComment : Bool) : List Char → List Char × List Char
  | [] => ([], [])
  | c :: cs =>
    if inComment then takeSpaced p (c != '\n') cs
    else if Unicode.isSpace c then takeSpaced p false cs
    else if c = '#' then takeSpaced p true cs
    else if p c then
      let (taken, rest) := takeSpaced p false cs
      (c :: taken, rest)
    else ([], c :: cs)

def takeWhile (f : Flags) (p : Char → Bool) (cs : List Char) : List Char × List Char :=
  if f.verbose then takeSpaced p false cs else (cs.takeWhile p, cs.dropWhile p)

def foldCase (f : Flags) (s : CharSet) : CharSet :=
  if !f.caseless then s
  else if f.unicode then s.caseless
  else s.caseless.inter .ascii

def literal (f : Flags) (c : Char) : Pattern :=
  if f.unicode || c.toNat < 128 then .ofSet (f.foldCase (.single c)) else .literal [c]

def dot? (f : Flags) : Option Pattern :=
  if !f.unicode then none
  else if f.dotAll then some (.set .all)
  else if f.anyLineEnd then some (.set (.compl (.join [.single '\r', .single '\n'])))
  else some (.set (.compl (.single '\n')))

def caret (f : Flags) : Look :=
  if !f.multiLine then .start else if f.anyLineEnd then .anyLineStart else .lineStart

def dollar (f : Flags) : Look :=
  if !f.multiLine then .stop else if f.anyLineEnd then .anyLineStop else .lineStop

/-- The set that `\d`, `\s` or `\w` names. Without Unicode a complement would hold bytes that are no
characters, and is refused. -/
def shorthand? (f : Flags) (letter : Char) : Option CharSet :=
  let plain : Option CharSet :=
    match letter.toLower with
    | 'd' => some (if f.unicode then .digit else .asciiDigit)
    | 's' => some (if f.unicode then .space else .asciiSpace)
    | 'w' => some (if f.unicode then .word else .asciiWord)
    | _ => none
  if letter.isUpper then
    if f.unicode then plain.map .compl else none
  else plain

end Flags

/-- The flags between `(?` and the `:` or `)` after them, and whether it is a `:`. Each letter comes
at most once, and letters after the only `-` are switched off. -/
def takeFlags? (minus afterMinus : Bool) (seen : List Char) (f : Flags) :
    List Char → Option (Flags × List Char × Bool × List Char)
  | ':' :: rest => if afterMinus then none else some (f, seen, true, rest)
  | ')' :: rest => if afterMinus then none else some (f, seen, false, rest)
  | '-' :: rest => if minus then none else takeFlags? true true seen f rest
  | c :: rest =>
    if Flags.letters.contains c && !seen.contains c then
      takeFlags? minus false (c :: seen) (f.put c !minus) rest
    else none
  | [] => none

end DocQuery.Pattern
