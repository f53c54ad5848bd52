import DocQuery.Log.Line
import DocQuery.Time.Format

/-!
The parts that layouts of log lines are made of, and what they write. A part that cannot be made
sense of writes what is wrong with it.
-/
namespace DocQuery.Log

/-- What is written is filled up to the least width, and then cut to the greatest one. -/
structure Width where
  fill : Char
  toRight : Bool
  least : Nat
  most : Option Nat
deriving DecidableEq, Repr

namespace Width

def any : Width := ⟨' ', false, 0, none⟩

def apply (w : Width) (text : String) : String :=
  let chars := text.toList
  let filling := List.replicate (w.least - chars.length) w.fill
  let filled := if w.toRight then filling ++ chars else chars ++ filling
  String.ofList (filled.take (w.most.getD filled.length))

end Width

inductive Part where
  | text (s : String)
  | fault (message : String)
  /-- A name in braces, with arguments in parentheses that are layouts themselves. -/
  | call (name : String) (args : List (List Part)) (width : Width)
deriving Repr

namespace Part

def faultText (message : String) : String := "\x7bERROR: " ++ message ++ "\x7d"

def thread : String := "main"

def number : String := "0"

def field? (line : Line) : String → Option String
  | "l" | "level" => some line.level.name
  | "m" | "message" => some line.message
  | "M" | "module" => some line.origin.module
  | "n" => some "\n"
  | "f" | "file" => some line.origin.file
  | "L" | "line" => some (toString line.origin.line)
  | "T" | "thread" => some thread
  | "I" | "P" | "pid" | "i" | "tid" => some number
  | "t" | "target" => some line.target
  | _ => none

def isGroup (name : String) : Bool := ["", "h", "highlight", "R", "release"].contains name

def isDebug (name : String) : Bool := ["D", "debug"].contains name

def plainText (parts : List Part) : String :=
  String.join (parts.map fun
    | text s => s
    | fault message => faultText message
    | call .. => faultText "unexpected formatter")

def checkZone : Option (List Part) → Except String Unit
  | none | some [text "utc"] | some [text "local"] => .ok ()
  | some [text zone] => .error ("invalid timezone \x60" ++ zone ++ "\x60")
  | some _ => .error "invalid timezone"

/-- A moment by a format; where it is not known only what does not depend on it is written. -/
def time (now : Option Instant) (args : List (List Part)) : Except String String := do
  if 2 < args.length then throw "expected at most two arguments"
  let format := match args.head? with
    | some parts => plainText parts
    | none => "%+"
  checkZone args[1]?
  match now with
  | some t => return t.format format
  | none => return if format.contains '%' then "" else format

def single (what : String) : List Part → Except String String
  | [text s] => .ok s
  | [fault message] => .error message
  | _ => .error ("invalid MDC " ++ what)

/-- What a key stands for around a line. Nothing is known there, so the default is written. -/
def contextual (args : List (List Part)) : Except String String := do
  if 2 < args.length then throw "expected at most two arguments"
  match args with
  | [] => throw "missing MDC key"
  | key :: rest =>
    let _ ← single "key" key
    match rest.head? with
    | some default => single "default" default
    | none => return ""

def content (now : Option Instant) (line : Line) (name : String) (args : List (List Part)) :
    Except String String :=
  match name with
  | "d" | "date" => time now args
  | "X" | "mdc" => contextual args
  | _ =>
    match field? line name with
    | some s => if args.isEmpty then .ok s else .error "unexpected arguments"
    | none => .error ("unknown formatter \x60" ++ name ++ "\x60")

def finish (w : Width) : Except String String → String
  | .ok s => w.apply s
  | .error message => faultText message

mutual
def write (now : Option Instant) (line : Line) : Part → String
  | text s => s
  | fault message => faultText message
  | call name [arg] w =>
    if isGroup name then w.apply (writeAll now line arg)
    else if isDebug name then w.apply ""
    else finish w (content now line name [arg])
  | call name args w =>
    if isGroup name || isDebug name then faultText "expected exactly one argument"
    else finish w (content now line name args)

def writeAll (now : Option Instant) (line : Line) : List Part → String
  | [] => ""
  | p :: ps => write now line p ++ writeAll now line ps
end

end Part

end DocQuery.Log
