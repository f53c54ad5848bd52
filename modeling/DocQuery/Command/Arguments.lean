import DocQuery.Config.Sources

/-!
The arguments of the program: options, then a command with its own arguments.
-/
namespace DocQuery.Command

inductive Action where
  | compile (request : String) (pretty : Bool)
  | check (request : String)
  | run (request data : String)
deriving DecidableEq, Repr

structure Options where
  config : Option String
  merge : Option MergePolicy
  encoding : Option ScalarEncoding
  logLevel : Option String
  logDirectory : Option String
  logConfig : Option String
deriving DecidableEq, Repr

def Options.none : Options := ⟨.none, .none, .none, .none, .none, .none⟩

inductive Invocation where
  | version
  | act (options : Options) (action : Action)
deriving DecidableEq, Repr

namespace Arguments

def once? {α : Type} (old : Option α) (new : Option α) : Option (Option α) :=
  match old, new with
  | none, some a => some (some a)
  | _, _ => none

def path? (text : String) : Option String := if text = "" then none else some text

def put? (o : Options) (name value : String) : Option Options :=
  match name with
  | "--config" => (once? o.config (path? value)).map fun config => { o with config }
  | "--merge" =>
    (once? o.merge (MergePolicy.ofText value).toOption).map fun merge => { o with merge }
  | "--encoding" =>
    (once? o.encoding (ScalarEncoding.ofText value).toOption).map fun encoding =>
      { o with encoding }
  | "--log-level" => (once? o.logLevel (some value)).map fun logLevel => { o with logLevel }
  | "--log-dir" =>
    (once? o.logDirectory (path? value)).map fun logDirectory => { o with logDirectory }
  | "--log-config" => (once? o.logConfig (path? value)).map fun logConfig => { o with logConfig }
  | _ => none

def isOption (arg : String) : Bool := arg.startsWith "-" && arg != "-"

def splitEquals? (arg : String) : Option (String × String) :=
  match arg.splitOn "=" with
  | name :: value :: rest => some (name, "=".intercalate (value :: rest))
  | _ => none

/-- The plain arguments and the options of a command. After two hyphens all arguments are plain. -/
def sift : List String → List String × List String
  | [] => ([], [])
  | "--" :: rest => (rest, [])
  | arg :: rest =>
    let (plain, options) := sift rest
    if isOption arg then (plain, arg :: options) else (arg :: plain, options)

def action? (name : String) (args : List String) : Option Action :=
  match name, sift args with
  | "compile", ([request], []) => some (.compile request false)
  | "compile", ([request], ["--pretty"]) => some (.compile request true)
  | "check", ([request], []) => some (.check request)
  | "run", ([request, data], []) => (path? data).map fun data => .run request data
  | _, _ => none

/-- Reads the options up to the command. What follows the letter for the version is not looked
at. -/
def read? (o : Options) : List String → Option Invocation
  | [] => none
  | arg :: rest =>
    if arg = "--version" || arg.startsWith "-V" then some .version
    else if !isOption arg then (action? arg rest).map fun action => .act o action
    else
      match splitEquals? arg, rest with
      | some (name, value), rest => (put? o name value).bind fun o => read? o rest
      | none, value :: rest =>
        if isOption value then none else (put? o arg value).bind fun o => read? o rest
      | none, [] => none

def parse? (args : List String) : Option Invocation := read? .none args

end Arguments

end DocQuery.Command
