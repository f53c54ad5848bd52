/-!
Lines of a log: how much they matter, who speaks, what is said, and where in the program this is.
-/
namespace DocQuery.Log

inductive Level where
  | error
  | warn
  | info
  | debug
  | trace
deriving DecidableEq, Repr

namespace Level

def rank : Level → Nat
  | error => 1
  | warn => 2
  | info => 3
  | debug => 4
  | trace => 5

def name : Level → String
  | error => "ERROR"
  | warn => "WARN"
  | info => "INFO"
  | debug => "DEBUG"
  | trace => "TRACE"

end Level

abbrev Threshold := Option Level

namespace Threshold

def admits (t : Threshold) (level : Level) : Bool :=
  match t with
  | none => false
  | some most => level.rank ≤ most.rank

def name : Threshold → String
  | none => "OFF"
  | some level => level.name

def all : List Threshold := [none, some .error, some .warn, some .info, some .debug, some .trace]

def named? (text : String) : Option Threshold := all.find? fun t => t.name == text.toUpper

end Threshold

structure Origin where
  module : String
  hasParts : Bool
  line : Nat
deriving DecidableEq, Repr

def Origin.file (o : Origin) : String :=
  "/".intercalate ("src" :: (o.module.splitOn "::").drop 1)
    ++ (if o.hasParts then "/mod" else "") ++ ".rs"

structure Line where
  level : Level
  target : String
  message : String
  origin : Origin
deriving DecidableEq, Repr

end DocQuery.Log
