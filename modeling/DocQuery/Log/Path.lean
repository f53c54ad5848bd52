import DocQuery.Config.Basic
import DocQuery.Log.Setup

/-!
Paths of log files. A variable of the environment may stand in a path, in braces after its sign;
where the variable is not set the path stays as it is.
-/
namespace DocQuery.Log.Path

def sign : String := "$ENV\x7b"

def isNameStart (c : Char) : Bool := Unicode.isAlphanumeric c || c == '_'

def isNameChar (c : Char) : Bool := isNameStart c || c == '.'

def name? (cs : List Char) : Option String :=
  match cs.takeWhile isNameChar, cs.dropWhile isNameChar with
  | first :: others, '\x7d' :: _ =>
    if isNameStart first then some (String.ofList (first :: others)) else none
  | _, _ => none

def variableNames (path : String) : List String :=
  ((path.splitOn sign).drop 1).filterMap fun part => name? part.toList

def expand (env : Environment) (path : String) : String :=
  (variableNames path).foldl
    (fun path name =>
      match env name with
      | some value => path.replace (sign ++ name ++ "\x7d") value
      | none => path)
    path

end DocQuery.Log.Path

namespace DocQuery.Log

def Sink.expand (env : Environment) : Sink → Sink
  | file path keep => file (Path.expand env path) keep
  | s => s

namespace Setup

def expand (env : Environment) (s : Setup) : Setup :=
  { s with appenders := s.appenders.map fun a => { a with sink := a.sink.expand env } }

def variableNames (s : Setup) : List String :=
  s.appenders.flatMap fun a =>
    match a.sink with
    | .file path _ => Path.variableNames path
    | _ => []

end Setup

end DocQuery.Log
