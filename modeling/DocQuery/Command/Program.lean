import DocQuery.Command.Disk
import DocQuery.Command.Run
import DocQuery.Log.Path
import DocQuery.Log.Settings

/-!
The program as a whole: what its arguments, its environment and the files come to.
-/
namespace DocQuery.Command.Program

def versionText : String := "criteriac 0.1.0\n"

def warningText : String := "warning: logging disabled"

def errorText (e : Error) : String := "error: " ++ e.message

def variableNames : List String :=
  ["CRITERIA_CONFIG", "CRITERIA_IDENTIFIER_FIELD", "CRITERIA_NATIVE_IDENTIFIER_FIELD",
   "CRITERIA_MERGE_POLICY", "CRITERIA_SCALAR_ENCODING", "CRITERIA_LOG_DIR", "CRITERIA_LOG_LEVEL",
   "CRITERIA_TRACE"]

def sources (o : Options) : Config.Sources := ⟨o.config, o.merge, o.encoding, some ""⟩

def paths (o : Options) (env : Environment) (action : Action) : List String :=
  let argumentPath (arg : String) : List String :=
    match arg.toList with
    | '@' :: path => [String.ofList path]
    | _ => []
  let actionPaths := match action with
    | .compile arg _ | .check arg => argumentPath arg
    | .run arg data => data :: argumentPath arg
  ((sources o).named env).toList ++ (sources o).local.toList ++ o.logConfig.toList ++ actionPaths

inductive Logging where
  | off
  | failed
  | on (setup : Log.Setup)

/-- What follows the last point of the last name in a path, if it is not the first character. -/
def extension? (path : String) : Option String :=
  let names := (path.splitOn "/").filter fun name => name != "" && name != "."
  match names.getLast? with
  | none => none
  | some name =>
    match (name.splitOn ".").reverse with
    | last :: before :: others =>
      if name = ".." || (before = "" && others.isEmpty) then none else some last
    | _ => none

def isYaml (path : String) : Bool := [some "yaml", some "yml"].contains (extension? path)

def isYes (text : String) : Bool := ["1", "true", "yes"].contains text.toLower

/-- A file of settings comes before a directory, and options come before the environment. -/
def logging (o : Options) (env : Environment) (files : Files) : Logging :=
  match o.logConfig, o.logDirectory, env "CRITERIA_LOG_DIR" with
  | some path, _, _ =>
    match (files path).bind Entry.text? with
    | some text =>
      match if isYaml path then Log.Setup.read? text else none with
      | some setup => .on setup
      | none => .failed
    | none => .failed
  | none, some directory, _ => .on (Log.Plan.mk directory o.logLevel false).setup
  | none, none, some directory =>
    .on (Log.Plan.mk directory (env "CRITERIA_LOG_LEVEL")
      ((env "CRITERIA_TRACE").any isYes)).setup
  | none, none, none => .off

def execute (o : Options) (env : Environment) (files : Files) (action : Action) : Run :=
  .ofExcept do
    let c ← (sources o).load env files
    return act c files action

structure Outcome where
  exitCode : Nat
  stdout : String
  stderr : List String
  disk : Disk

/-- Opens the files of some appenders. Where one cannot be opened its appender is left out, or
all fails if `strict` is set. -/
def openAll? (strict : Bool) (d : Disk) : List Log.Appender → Option (Disk × List Log.Appender)
  | [] => some (d, [])
  | a :: rest =>
    let opened := match a.sink with
      | .file path keep => d.open? path keep
      | _ => some d
    match opened with
    | some d => (openAll? strict d rest).map fun (d, others) => (d, a :: others)
    | none => if strict then none else openAll? strict d rest

def open? (setup : Log.Setup) (d : Disk) : Option (Disk × Log.Setup) := do
  let d ← match setup.directory with
    | some path => d.makeDirectories? path
    | none => some d
  let (d, appenders) ← openAll? setup.strict d setup.appenders
  return (d, { setup with appenders })

/-- Logging that cannot start is told of, and the command is carried out without it. -/
def start (o : Options) (env : Environment) (d : Disk) : Disk × Logging :=
  match logging o env d.lookup? with
  | .on setup =>
    match open? (setup.expand env) d with
    | some (d, setup) => (d, .on setup)
    | none => (d, .failed)
  | other => (d, other)

def Logging.written (l : Logging) (lines : List Log.Line) : List (Log.Sink × String) :=
  match l with
  | .on setup => setup.written none lines
  | _ => []

def Logging.sent (l : Logging) : Emission → List (Log.Sink × String)
  | .text s => [(.output, s)]
  | .line line => l.written [line]

def appendTo (d : Disk) : Log.Sink × String → Disk
  | (.file path _, text) => d.append path text
  | _ => d

def outputText (written : List (Log.Sink × String)) : String :=
  String.join ((written.filter fun w => w.1 == .output).map Prod.snd)

def invoke (o : Options) (action : Action) (env : Environment) (d : Disk) : Outcome :=
  let (d, logging) := start o env d
  let run := execute o env d.lookup? action
  let sent := run.emitted.flatMap logging.sent
  let d := sent.foldl appendTo d
  let warnings := match logging with
    | .failed => [warningText]
    | _ => []
  match run.ended with
  | .ok () => ⟨0, outputText sent, warnings, d⟩
  | .error e => ⟨1, outputText sent, warnings ++ [errorText e], d⟩

def main? (args : List String) (env : Environment) (d : Disk) : Option Outcome :=
  (Arguments.parse? args).map fun invocation =>
    match invocation with
    | .version => ⟨0, versionText, [], d⟩
    | .act o action => invoke o action env d

end DocQuery.Command.Program
