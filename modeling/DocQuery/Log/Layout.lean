import DocQuery.Log.Part
import DocQuery.Unicode.Binary

/-!
Layouts of log lines: which parts are written, and in which order. In the text of a layout names
stand in braces; every text is a layout.
-/
namespace DocQuery.Log

abbrev Layout := List Part

namespace Layout

def stampFormat : String := "%Y-%m-%d %H:%M:%S%.3f"

def standard : Layout :=
  [.call "d" [[.text stampFormat]] .any, .text " [", .call "l" [] .any, .text "] ",
   .call "t" [] .any, .text " - ", .call "m" [] .any, .call "n" [] .any]

/-- A layout without the time that stands first in the standard one, and the blank after it. -/
def untimed : Layout → Layout
  | .call name [[.text format]] w :: .text s :: rest =>
    if name = "d" && format = stampFormat && s.startsWith " " then .text (s.drop 1).toString :: rest
    else .call name [[.text format]] w :: .text s :: rest
  | l => l

def write (l : Layout) (now : Option Instant) (line : Line) : String :=
  Part.writeAll now line (if now.isSome then l else l.untimed)

def signs : List Char := ['\x7b', '\x7d', '(', ')', '\\']

def takeName : List Char → String × List Char
  | c :: cs =>
    if Unicode.isAlphabetic c then
      (String.ofList (c :: cs.takeWhile Unicode.isAlphanumeric),
        cs.dropWhile Unicode.isAlphanumeric)
    else ("", c :: cs)
  | [] => ("", [])

def takeNumber? (cs : List Char) : Option Nat × List Char :=
  (Text.readNat? (cs.takeWhile Char.isDigit), cs.dropWhile Char.isDigit)

/-- How a part is aligned, after its colon: a character to fill with, a direction, the least width,
and after a point the greatest one. Each may be missing. -/
def takeWidth (cs : List Char) : Width × List Char :=
  let (fill, cs) := match cs with
    | c :: '<' :: rest => (c, '<' :: rest)
    | c :: '>' :: rest => (c, '>' :: rest)
    | cs => (' ', cs)
  let (toRight, cs) := match cs with
    | '<' :: rest => (false, rest)
    | '>' :: rest => (true, rest)
    | cs => (false, cs)
  let (least, cs) := takeNumber? cs
  let (most, cs) := match cs with
    | '.' :: rest => takeNumber? rest
    | cs => (none, cs)
  (⟨fill, toRight, least.getD 0, most⟩, cs)

/-- A sign that is written twice, or after a backslash, stands for itself. -/
def takeSign (sign : Char) (message : String) : List Char → Part × List Char
  | c :: rest => if c = sign then (.text sign.toString, rest) else (.fault message, c :: rest)
  | [] => (.fault message, [])

mutual
/-- Reads one part at the front of a text that is not empty. A part takes at least one character, so
the length of the text is fuel enough. -/
def takePart : Nat → List Char → Part × List Char
  | fuel + 1, '\x7b' :: rest =>
    match rest with
    | '\x7b' :: rest => (.text "\x7b", rest)
    | rest =>
      let (name, rest) := takeName rest
      match takeArgs fuel rest with
      | some (args, rest) =>
        let (width, rest) := match rest with
          | ':' :: rest => takeWidth rest
          | rest => (Width.any, rest)
        match rest with
        | '\x7d' :: rest => (.call name args width, rest)
        | _ => (.fault "expected '\x7d'", [])
      | none => (.fault "expected '\x7d'", [])
  | _, '\x7d' :: rest => takeSign '\x7d' "unmatched '\x7d'" rest
  | _, '(' :: rest => takeSign '(' "unexpected '('" rest
  | _, ')' :: rest => takeSign ')' "unexpected ')'" rest
  | _, '\\' :: rest =>
    match rest with
    | c :: after =>
      if signs.contains c then (.text c.toString, after) else (.fault "unexpected '\\'", rest)
    | [] => (.fault "unexpected '\\'", [])
  | _, cs =>
    (.text (String.ofList (cs.takeWhile fun c => !signs.contains c)),
      cs.dropWhile fun c => !signs.contains c)

def takeArgs : Nat → List Char → Option (List (List Part) × List Char)
  | fuel + 1, '(' :: rest =>
    match takeArg fuel rest with
    | some (arg, rest) => (takeArgs fuel rest).map fun (args, rest) => (arg :: args, rest)
    | none => none
  | _, cs => some ([], cs)

def takeArg : Nat → List Char → Option (List Part × List Char)
  | _, [] => none
  | _, ')' :: rest => some ([], rest)
  | 0, _ => none
  | fuel + 1, cs =>
    let (part, rest) := takePart fuel cs
    (takeArg fuel rest).map fun (parts, rest) => (part :: parts, rest)
end

def readList : Nat → List Char → Layout
  | fuel + 1, c :: cs =>
    let (part, rest) := takePart fuel (c :: cs)
    part :: readList fuel rest
  | _, _ => []

def read (text : String) : Layout :=
  let cs := text.toList
  readList (2 * cs.length + 2) cs

end Layout

end DocQuery.Log
