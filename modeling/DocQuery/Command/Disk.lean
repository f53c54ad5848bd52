import DocQuery.Config.Sources

/-!
Files and directories by path. A path is followed name by name: two dots go up, one dot stays, and
what comes before a name has to be a directory. Nothing is known outside of the working directory.
-/
namespace DocQuery

/-- Files and directories by the names on the way to them from the working directory, which is one
itself. -/
structure Disk where
  files : List (List String × ByteArray)
  directories : List (List String)

namespace Disk

def empty : Disk := ⟨[], []⟩

def segments (path : String) : List String := path.splitOn "/"

def isDirectory (d : Disk) (place : List String) : Bool :=
  place.isEmpty || d.directories.contains place

def walk? (d : Disk) (place : List String) : List String → Option (List String)
  | [] => some place
  | name :: rest =>
    if !d.isDirectory place then none
    else if name = "" || name = "." then walk? d place rest
    else if name = ".." then
      if place.isEmpty then none else walk? d place.dropLast rest
    else walk? d (place ++ [name]) rest

def place? (d : Disk) (path : String) : Option (List String) :=
  if path = "" || path.startsWith "/" then none else d.walk? [] (segments path)

def lookup? (d : Disk) : Files := fun path =>
  match d.place? path with
  | none => none
  | some place =>
    if d.isDirectory place then some .directory
    else (d.files.lookup place).map .file

def enter? (d : Disk) (place : List String) : List String → Option (Disk × List String)
  | [] => some (d, place)
  | name :: rest =>
    if name = "" || name = "." then enter? d place rest
    else if name = ".." then
      if place.isEmpty then none else enter? d place.dropLast rest
    else
      let next := place ++ [name]
      if d.isDirectory next then enter? d next rest
      else if (d.files.lookup next).isSome then none
      else enter? { d with directories := d.directories ++ [next] } next rest

def makeDirectories? (d : Disk) (path : String) : Option Disk :=
  if path.startsWith "/" then none else (d.enter? [] (segments path)).map Prod.fst

def target? (d : Disk) (path : String) : Option (Disk × List String) :=
  match (segments path).getLast? with
  | none => none
  | some name =>
    if name = "" || name = "." || name = ".." || path.startsWith "/" then none
    else do
      let (d, place) ← d.enter? [] (segments path).dropLast
      let place := place ++ [name]
      if d.isDirectory place then none else return (d, place)

def change (d : Disk) (place : List String) (f : ByteArray → ByteArray) : Disk :=
  if (d.files.lookup place).isSome then
    { d with files := d.files.map fun (p, bytes) => (p, if p == place then f bytes else bytes) }
  else { d with files := d.files ++ [(place, f ByteArray.empty)] }

def open? (d : Disk) (path : String) (keep : Bool) : Option Disk :=
  (d.target? path).map fun (d, place) =>
    d.change place fun bytes => if keep then bytes else ByteArray.empty

def append (d : Disk) (path text : String) : Disk :=
  match d.target? path with
  | some (d, place) => d.change place (· ++ text.toUTF8)
  | none => d

def put (d : Disk) (path : String) (bytes : ByteArray) : Disk :=
  match d.target? path with
  | some (d, place) => d.change place fun _ => bytes
  | none => d

def ofFiles (files : List (String × ByteArray)) : Disk :=
  files.foldl (fun d (path, bytes) => d.put path bytes) empty

def namesIn (d : Disk) (directory : String) : List String :=
  match d.walk? [] (segments directory) with
  | none => []
  | some place =>
    let names := (d.directories ++ d.files.map Prod.fst).filterMap fun p =>
      if p.dropLast == place && p.length == place.length + 1 then p.getLast? else none
    names.mergeSort fun a b => a ≤ b

end Disk

end DocQuery
