import DocQuery.Command.Program
import Std.Time.DateTime

/-!
The command line.
-/
namespace DocQuery

open Command

def readEntry (path : String) : IO (Option Entry) := do
  try
    let place ← IO.FS.realPath path
    if ← place.isDir then return some .directory
    if ← place.pathExists then return some (.file (← IO.FS.readBinFile place))
    return none
  catch _ => return none

def readFiles (paths : List String) : IO Files := do
  let found ← paths.mapM fun path => do return (path, ← readEntry path)
  return fun path => (found.lookup path).join

def readEnvironment (names : List String) : IO Environment := do
  let found ← names.mapM fun name => do return (name, ← IO.getEnv name)
  return fun name => (found.lookup name).join

abbrev Writer := String → IO Unit

def openSink : Log.Sink → IO Writer
  | .file path keep => do
    match (Text.split '/' path).dropLast with
    | [] | [""] => pure ()
    | names => IO.FS.createDirAll ("/".intercalate names)
    let handle ← IO.FS.Handle.mk path (if keep then .append else .write)
    return fun text => do
      handle.putStr text
      handle.flush
  | .output => return fun text => IO.print text
  | .errors => return fun text => IO.eprint text
  | .nowhere => return fun _ => pure ()

def openAll (strict : Bool) :
    List Log.Appender → IO (List Log.Appender × List (Log.Sink × Writer))
  | [] => return ([], [])
  | a :: rest => do
    let opened ←
      try pure (some (← openSink a.sink)) catch e => if strict then throw e else pure none
    let (appenders, writers) ← openAll strict rest
    match opened with
    | some writer => return (a :: appenders, (a.sink, writer) :: writers)
    | none => return (appenders, writers)

def startLogging (setup : Log.Setup) : IO (Option (Log.Setup × List (Log.Sink × Writer))) := do
  let env ← readEnvironment setup.variableNames
  let setup := setup.expand env
  try
    match setup.directory with
    | some "" | none => pure ()
    | some path => IO.FS.createDirAll path
    let (appenders, writers) ← openAll setup.strict setup.appenders
    return some ({ setup with appenders }, writers)
  catch _ => return none

def now : IO Instant := do
  let t ← Std.Time.Timestamp.now
  return ⟨Int64.ofInt t.toMillisecondsSinceUnixEpoch.val⟩

def writeLine (logging : Option (Log.Setup × List (Log.Sink × Writer))) (line : Log.Line) :
    IO Unit := do
  match logging with
  | none => pure ()
  | some (setup, writers) =>
    for (sink, text) in setup.written (some (← now)) [line] do
      match writers.lookup sink with
      | some write => write text
      | none => pure ()

def printed : Receiver IO := fun text => ExceptT.mk do
  try
    IO.print text
    return .ok ()
  catch _ => return .error .io

def invoke (o : Options) (action : Action) : IO UInt32 := do
  let env ← readEnvironment Program.variableNames
  let files ← readFiles (Program.paths o env action)
  let logging ← match Program.logging o env files with
    | .off => pure none
    | .failed => do IO.eprintln Program.warningText; pure none
    | .on setup => do
      match ← startLogging setup with
      | some started => pure (some started)
      | none => do IO.eprintln Program.warningText; pure none
  let carriedOut : ExceptT Error IO Unit := do
    let c ← (Program.sources o).load env files
    perform ⟨printed, writeLine logging⟩ c files action
  match ← carriedOut.run with
  | .ok () => return 0
  | .error e => do
    IO.eprintln (Program.errorText e)
    return 1

end DocQuery

open DocQuery Command in
def main (args : List String) : IO UInt32 := do
  match Arguments.parse? args with
  | none => do
    IO.eprintln "usage: criteriac [OPTIONS] compile|check|run ..."
    return 2
  | some .version => do IO.print Program.versionText; return 0
  | some (.act o action) => invoke o action
