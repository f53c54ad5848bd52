import DocQuery.Json.Printer
import DocQuery.Log.Layout
import DocQuery.Query.Conversion

/-!
How logging is set up: where lines go to, a threshold for all lines, and exceptions for some
targets.
-/
namespace DocQuery.Log

inductive Encoder where
  | layout (l : Layout)
  | json

namespace Encoder

def object (now : Option Instant) (line : Line) : Json :=
  .object
    [("time", .string ((now.map fun t => t.format "%+").getD "")),
     ("level", .string line.level.name), ("message", .string line.message),
     ("module_path", .string line.origin.module), ("file", .string line.origin.file),
     ("line", .number (.int line.origin.line)), ("target", .string line.target),
     ("thread", .string Part.thread), ("mdc", .object [])]

def write (e : Encoder) (now : Option Instant) (line : Line) : String :=
  match e with
  | layout l => l.write now line
  | json => (object now line).compact ++ "\n"

end Encoder

inductive Sink where
  /-- A file is emptied first unless it is kept. -/
  | file (path : String) (keep : Bool)
  | output
  | errors
  | nowhere
deriving DecidableEq, Repr

structure Appender where
  name : String
  sink : Sink
  encoder : Encoder
  /-- Lines have to pass all of these. -/
  filters : List Threshold

structure Logger where
  target : String
  threshold : Threshold
  appenders : List String
  /-- Whether lines also go where they would go without this logger. -/
  additive : Bool

structure Setup where
  directory : Option String
  /-- Whether there is no logging if a file cannot be opened. Otherwise its appender is left out. -/
  strict : Bool
  threshold : Threshold
  rootAppenders : List String
  appenders : List Appender
  loggers : List Logger

namespace Setup

def covers (logger target : String) : Bool :=
  target == logger || target.startsWith (logger ++ "::")

/-- The loggers that cover a target, the closest one last. -/
def loggersFor (s : Setup) (target : String) : List Logger :=
  (s.loggers.filter fun l => covers l.target target).mergeSort fun a b =>
    a.target.length ≤ b.target.length

def ruleFor (s : Setup) (target : String) : Threshold × List String :=
  (s.loggersFor target).foldl
    (fun rule l => (l.threshold, l.appenders ++ (if l.additive then rule.2 else [])))
    (s.threshold, s.rootAppenders)

/-- The appenders that a line goes to; a line may go to one more than once. -/
def route (s : Setup) (line : Line) : List Appender :=
  let (threshold, names) := s.ruleFor line.target
  if threshold.admits line.level then
    (names.filterMap fun name => s.appenders.find? fun a => a.name == name).filter fun a =>
      a.filters.all fun t => t.admits line.level
  else []

def written (s : Setup) (now : Option Instant) (lines : List Line) : List (Sink × String) :=
  lines.flatMap fun line =>
    (s.route line).map fun a => (a.sink, a.encoder.write now line)

end Setup

/-- Words for thresholds. Anything else means the usual one. -/
def Threshold.ofText (text : String) : Threshold := (named? text).getD (some .info)

structure Plan where
  directory : String
  level : Option String
  trace : Bool

namespace Plan

def threshold (p : Plan) : Threshold :=
  match p.level with
  | some text => Threshold.ofText text
  | none => some .info

def filePath (directory name : String) : String :=
  if directory = "" || directory.endsWith "/" then directory ++ name else directory ++ "/" ++ name

def appender (p : Plan) (name : String) : Appender :=
  ⟨name, .file (filePath p.directory (name ++ ".log")) true, .layout .standard, []⟩

/-- Events go to their own file or nowhere. -/
def setup (p : Plan) : Setup :=
  { directory := some p.directory
    strict := true
    threshold := p.threshold
    rootAppenders := ["app"]
    appenders := p.appender "app" :: (if p.trace then [p.appender "trace"] else [])
    loggers :=
      [if p.trace then ⟨Conversion.traceTarget, some .trace, ["trace"], false⟩
       else ⟨Conversion.traceTarget, none, [], false⟩] }

end Plan

end DocQuery.Log
