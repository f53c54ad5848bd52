import DocQuery.Config.Sources
import DocQuery.Criteria.Input
import DocQuery.Store.Memory
import DocQuery.Text.Split
import DocQuery.Unicode.Binary

/-!
Files of documents, one on each line, put into a store line by line.
-/
namespace DocQuery

namespace Data

def splitBytes (bytes : List UInt8) : List (List UInt8) :=
  bytes.foldr
    (fun b parts =>
      match parts with
      | part :: rest => if b = 10 then [] :: part :: rest else (b :: part) :: rest
      | [] => if b = 10 then [[], []] else [[b]])
    [[]]

/-- The lines of a file. Where the file is not text, the lines before the fault still are. -/
def lines (bytes : ByteArray) : List (Option String) :=
  match String.fromUTF8? bytes with
  | some text => (Text.split '\n' text).map some
  | none => (splitBytes bytes.toList).map fun part => String.fromUTF8? ⟨part.toArray⟩

def isBlank (line : String) : Bool := line.toList.all Unicode.isSpace

def document? (file : String) (number : Nat) : Option String → Except Error (Option Document)
  | none => .error .io
  | some line =>
    if isBlank line then .ok none
    else
      match Json.read? line with
      | none => .error (.invalidArgument (.line file number))
      | some j => (Document.ofInput j).map some

/-- Puts the documents on lines from `number` on into a store, each before the next line is read. -/
def insertLines (file : String) (s : Store) (ids : IdSource) (number : Nat) :
    List (Option String) → Except Error Store
  | [] => .ok s
  | line :: rest => do
    match ← document? file number line with
    | none => insertLines file s ids (number + 1) rest
    | some d =>
      let (s, ids, _) := s.insert ids d
      insertLines file s ids (number + 1) rest

def load (file : String) (entry : Option Entry) : Except Error Store :=
  match entry with
  | some (.file bytes) => insertLines file (.empty file) .initial 1 (lines bytes)
  | _ => .error .io

end Data

end DocQuery
