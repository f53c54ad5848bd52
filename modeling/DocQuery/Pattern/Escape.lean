import DocQuery.Pattern.Flags
import DocQuery.Unicode.Property

/-!
Escapes: what a backslash and the characters after it stand for.
-/
namespace DocQuery.Pattern

inductive Escape where
  /-- A character, and whether it was written as one byte. -/
  | literal (c : Char) (asByte : Bool)
  | set (s : CharSet)
  | look (k : Look)

namespace Escape

def ofCode? (n : Nat) : Option Char := if n.isValidChar then some (Char.ofNat n) else none

def takeDigits? (f : Flags) : Nat → List Char → Option (List Char × List Char)
  | 0, cs => some ([], cs)
  | count + 1, cs =>
    match cs with
    | c :: rest => (takeDigits? f count (f.skip rest)).map fun (ds, rest) => (c :: ds, rest)
    | [] => none

def takeBraced? (f : Flags) (cs : List Char) : Option (List Char × List Char) :=
  match f.takeWhile (· != '\x7d') cs with
  | (inside, _ :: rest) => some (inside, rest)
  | _ => none

def takeCode? (f : Flags) (width : Nat) (cs : List Char) : Option (Char × List Char) := do
  let (digits, rest) ←
    match f.skip cs with
    | '\x7b' :: rest => takeBraced? f rest
    | cs => takeDigits? f width cs
  return (← (Text.readHex? digits).bind ofCode?, rest)

/-- Splits at the first place where a separator stands: `!=`, else `:`, else `=`. -/
def splitProperty (name : String) : String × Option (Bool × String) :=
  match name.splitOn "!=" with
  | first :: second :: rest => (first, some (true, "!=".intercalate (second :: rest)))
  | _ =>
    match name.splitOn ":" with
    | first :: second :: rest => (first, some (false, ":".intercalate (second :: rest)))
    | _ =>
      match name.splitOn "=" with
      | first :: second :: rest => (first, some (false, "=".intercalate (second :: rest)))
      | _ => (name, none)

def property? (f : Flags) (negated : Bool) (name : String) : Option CharSet := do
  let (s, unequal) ← match splitProperty name with
    | (name, none) => (Unicode.Property.named? name).map fun s => (s, false)
    | (name, some (unequal, value)) =>
      (Unicode.Property.valued? name value).map fun s => (s, unequal)
  guard f.unicode
  let s := f.foldCase s
  return if negated != unequal then s.compl else s

def takeProperty? (f : Flags) (negated : Bool) (cs : List Char) : Option (CharSet × List Char) :=
  match f.skip cs with
  | '\x7b' :: rest => do
    let (name, rest) ← takeBraced? f rest
    return (← property? f negated (String.ofList name), rest)
  | '\\' :: _ => none
  | c :: rest => (property? f negated c.toString).map fun s => (s, rest)
  | [] => none

def isKindChar (c : Char) : Bool := c.isAlpha || c == '-'

/-- After `\b` a word in braces may say which boundary is meant; other braces repeat. -/
def takeBoundary? (f : Flags) (cs : List Char) : Option (Look × List Char) :=
  match cs with
  | '\x7b' :: inside =>
    match f.skip inside with
    | [] => none
    | c :: _ =>
      if isKindChar c then
        match f.takeWhile isKindChar inside with
        | (kind, '\x7d' :: rest) =>
          match String.ofList kind with
          | "start" => some (.wordStart f.unicode, rest)
          | "end" => some (.wordStop f.unicode, rest)
          | "start-half" => some (.noWordBefore f.unicode, rest)
          | "end-half" => some (.noWordAfter f.unicode, rest)
          | _ => none
        | _ => none
      else some (.boundary f.unicode, cs)
  | _ => some (.boundary f.unicode, cs)

def control? : Char → Option Char
  | 'a' => some '\x07'
  | 'f' => some '\x0c'
  | 't' => some '\t'
  | 'n' => some '\n'
  | 'r' => some '\r'
  | 'v' => some '\x0b'
  | _ => none

def isPlain (c : Char) : Bool :=
  c.toNat < 128 && !c.isAlphanum && c != '<' && c != '>'

def take? (f : Flags) : List Char → Option (Escape × List Char)
  | 'x' :: rest =>
    (takeCode? f 2 rest).map fun (c, after) =>
      (.literal c ((f.skip rest).head? != some '\x7b'), after)
  | 'u' :: rest => (takeCode? f 4 rest).map fun (c, rest) => (.literal c false, rest)
  | 'U' :: rest => (takeCode? f 8 rest).map fun (c, rest) => (.literal c false, rest)
  | 'p' :: rest => (takeProperty? f false rest).map fun (s, rest) => (.set s, rest)
  | 'P' :: rest => (takeProperty? f true rest).map fun (s, rest) => (.set s, rest)
  | 'A' :: rest => some (.look .start, rest)
  | 'z' :: rest => some (.look .stop, rest)
  | 'B' :: rest => some (.look (.noBoundary f.unicode), rest)
  | '<' :: rest => some (.look (.wordStart f.unicode), rest)
  | '>' :: rest => some (.look (.wordStop f.unicode), rest)
  | 'b' :: rest => (takeBoundary? f rest).map fun (k, rest) => (.look k, rest)
  | c :: rest =>
    if isPlain c then some (.literal c false, rest)
    else match control? c with
      | some d => some (.literal d false, rest)
      | none => (f.shorthand? c).map fun s => (.set s, rest)
  | [] => none

end Escape

end DocQuery.Pattern
