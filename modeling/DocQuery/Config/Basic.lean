import DocQuery.Criteria.Order
import DocQuery.Json.Printer
import DocQuery.Json.Record
import DocQuery.Toml.Document

/-!
Configuration: how identifiers are called, how filters are put together and how their values are
written. It is read from JSON or TOML, and variables of the environment override it.
-/
namespace DocQuery

inductive MergePolicy where
  | lastWriteWins
  | conjunction
deriving DecidableEq, Repr

namespace MergePolicy

def word : MergePolicy → String
  | lastWriteWins => "last_write_wins"
  | conjunction => "conjunction"

def ofWord? (text : String) : Option MergePolicy :=
  [lastWriteWins, conjunction].find? fun p => p.word == text

/-- Letters may be capital, hyphens stand for underscores, and there is a short name. -/
def ofText (text : String) : Except Error MergePolicy :=
  let word := text.toLower.map fun c => if c = '-' then '_' else c
  match if word = "and" then some conjunction else ofWord? word with
  | some p => .ok p
  | none => .error (.config (.mergePolicy text))

end MergePolicy

inductive ScalarEncoding where
  | canonical
  | typed
deriving DecidableEq, Repr

namespace ScalarEncoding

def word : ScalarEncoding → String
  | canonical => "canonical"
  | typed => "typed"

def ofWord? (text : String) : Option ScalarEncoding :=
  [canonical, typed].find? fun e => e.word == text

def ofText (text : String) : Except Error ScalarEncoding :=
  match ofWord? text.toLower with
  | some e => .ok e
  | none => .error (.config (.scalarEncoding text))

end ScalarEncoding

structure Config where
  /-- What requests call the identifier. -/
  identifier : String
  /-- What the store calls it. -/
  nativeIdentifier : String
  merge : MergePolicy
  encoding : ScalarEncoding
  defaultSort : Direction
deriving DecidableEq

abbrev Environment := String → Option String

namespace Config

def default : Config := ⟨"id", "_id", .lastWriteWins, .canonical, .descending⟩

def checked (c : Config) : Except Error Config :=
  if c.identifier = "" || c.nativeIdentifier = "" then .error (.config .emptyIdentifier) else .ok c

def override {α : Type} (read : String → Except Error α) (setting : α) :
    Option String → Except Error α
  | none => .ok setting
  | some text => read text

def withOverrides (c : Config) (env : Environment) : Except Error Config := do
  let identifier := (env "CRITERIA_IDENTIFIER_FIELD").getD c.identifier
  let nativeIdentifier := (env "CRITERIA_NATIVE_IDENTIFIER_FIELD").getD c.nativeIdentifier
  let merge ← override MergePolicy.ofText c.merge (env "CRITERIA_MERGE_POLICY")
  let encoding ← override ScalarEncoding.ofText c.encoding (env "CRITERIA_SCALAR_ENCODING")
  checked { c with identifier, nativeIdentifier, merge, encoding }

def names : List String :=
  ["identifier_field", "native_identifier_field", "merge_policy", "scalar_encoding", "default_sort"]

open Json.Syntax in
def ofSyntax? (s : Json.Syntax) : Option Config := do
  let [identifier, nativeIdentifier, merge, encoding, defaultSort] ← s.fields? names | none
  return {
    identifier := ← orDefault? default.identifier string? identifier
    nativeIdentifier := ← orDefault? default.nativeIdentifier string? nativeIdentifier
    merge := ← orDefault? default.merge (choice? MergePolicy.ofWord?) merge
    encoding := ← orDefault? default.encoding (choice? ScalarEncoding.ofWord?) encoding
    defaultSort := ← orDefault? default.defaultSort (choice? Direction.ofWord?) defaultSort }

def readJson (text : String) : Except Error Config :=
  match (Json.Syntax.read? text).bind ofSyntax? with
  | some c => .ok c
  | none => .error .json

/-- From a text that is read as a value first: all of it must have a value, also what names no
field, and of equal keys the last counts. -/
def readValue (text : String) : Except Error Config :=
  match ((Json.Syntax.read? text).bind Json.Syntax.settled?).bind ofSyntax? with
  | some c => .ok c
  | none => .error .json

def json (c : Config) : Json :=
  .object
    [("identifier_field", .string c.identifier),
     ("native_identifier_field", .string c.nativeIdentifier),
     ("merge_policy", .string c.merge.word), ("scalar_encoding", .string c.encoding.word),
     ("default_sort", .string c.defaultSort.word)]

end Config

namespace Toml

def text? : Tree → Option String
  | .text s => some s
  | _ => none

def isEmpty : Tree → Bool
  | .table _ [] | .array [] | .tables [] => true
  | _ => false

def choice? {α : Type} (read : String → Option α) : Tree → Option α
  | .text s => read s
  | .table _ [(key, t)] => if isEmpty t then read key else none
  | _ => none

def field? {α : Type} (setting : α) (read : Tree → Option α) (name : String) (ms : Members) :
    Option α :=
  match ms.find? name with
  | none => some setting
  | some t => read t

end Toml

namespace Config

open Toml in
def ofMembers? (ms : Toml.Members) : Option Config := do
  return {
    identifier := ← field? default.identifier text? "identifier_field" ms
    nativeIdentifier := ← field? default.nativeIdentifier text? "native_identifier_field" ms
    merge := ← field? default.merge (choice? MergePolicy.ofWord?) "merge_policy" ms
    encoding := ← field? default.encoding (choice? ScalarEncoding.ofWord?) "scalar_encoding" ms
    defaultSort := ← field? default.defaultSort (choice? Direction.ofWord?) "default_sort" ms }

def readToml? (text : String) : Option Config := (Toml.read? text).bind ofMembers?

def readToml (text : String) : Except Error Config :=
  match readToml? text with
  | some c => c.checked
  | none => .error (.config .unreadable)

end Config

end DocQuery
