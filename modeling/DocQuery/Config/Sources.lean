import DocQuery.Config.Basic

/-!
Where a configuration comes from: options come before the environment, the environment before a
file, a file before the defaults.
-/
namespace DocQuery

inductive Entry where
  | directory
  | file (bytes : ByteArray)

abbrev Files := String → Option Entry

namespace Entry

def text? : Entry → Option String
  | directory => none
  | file bytes => String.fromUTF8? bytes

end Entry

def Files.path (directory name : String) : String :=
  if name.startsWith "/" || directory = "" then name
  else if directory.endsWith "/" then directory ++ name
  else directory ++ "/" ++ name

namespace Config

structure Sources where
  file : Option String
  merge : Option MergePolicy
  encoding : Option ScalarEncoding
  directory : Option String

def fileName : String := "criteria.toml"

/-- The file that must exist: the option comes before the variable. -/
def Sources.named (s : Sources) (env : Environment) : Option String :=
  s.file <|> env "CRITERIA_CONFIG"

/-- The file that is read if it exists, when none is named. -/
def Sources.local (s : Sources) : Option String :=
  s.directory.map fun d => Files.path d fileName

def ofEntry (read : String → Option Config) (e : Entry) : Except Error Config :=
  match e.text?.bind read with
  | some c => c.checked
  | none => .error (.config .unreadable)

def Sources.base (read : String → Option Config) (s : Sources) (env : Environment) (files : Files) :
    Except Error Config :=
  match s.named env with
  | some path =>
    match files path with
    | some e => ofEntry read e
    | none => .error (.config (.fileNotFound path))
  | none =>
    match s.local.bind files with
    | some e => ofEntry read e
    | none => .ok default

def Sources.loadWith (read : String → Option Config) (s : Sources) (env : Environment)
    (files : Files) : Except Error Config := do
  let c ← s.base read env files
  let c ← c.withOverrides env
  return { c with merge := s.merge.getD c.merge, encoding := s.encoding.getD c.encoding }

def Sources.load (s : Sources) (env : Environment) (files : Files) : Except Error Config :=
  s.loadWith readToml? env files

end Config

end DocQuery
