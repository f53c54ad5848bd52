import DocQuery.Log.Setup
import DocQuery.Yaml.Value

/-!
Setups of logging from settings in YAML. The settings as a whole have to be as they should; an
appender or a filter that is described badly is left out.
-/
namespace DocQuery.Log

open Yaml (Node)

namespace Settings

def fields? (allowed : List String) (node : Node) : Option (List (String × Node)) := do
  let fields ← (← node.entries?).mapM fun (key, value) => do return (← key.word?, value)
  let names := fields.map Prod.fst
  guard (names.all allowed.contains && names.eraseDups.length == names.length)
  return fields

/-- Entries by their names; of those with the same name the last one counts. -/
def named? (node : Node) : Option (List (String × Node)) := do
  let entries ← (← node.entries?).mapM fun (key, value) => do return (← key.word?, value)
  let names := (entries.map Prod.fst).eraseDups
  return names.filterMap fun name => (entries.reverse.lookup name).map fun node => (name, node)

def threshold? (node : Node) : Option Threshold := node.word?.bind Threshold.named?

def names? (node : Node) : Option (List String) := do (← node.items?).mapM Node.word?

/-- What is set for all lines. Without settings everything up to debugging is let through, but goes
nowhere. -/
def root? (node : Option Node) : Option (Threshold × List String) := do
  let fields ← (node.map (fields? ["level", "appenders"])).getD (some [])
  let threshold ← ((fields.lookup "level").map threshold?).getD (some (some .debug))
  let names ← ((fields.lookup "appenders").map names?).getD (some [])
  return (threshold, names)

def logger? (target : String) (node : Node) : Option Logger := do
  let fields ← fields? ["level", "appenders", "additive"] node
  let threshold ← (fields.lookup "level").bind threshold?
  let names ← ((fields.lookup "appenders").map names?).getD (some [])
  let additive ← ((fields.lookup "additive").map Node.flag?).getD (some true)
  return ⟨target, threshold, names, additive⟩

/-- Names in a target stand between pairs of colons; there may be a pair in front. -/
def isTargetFrom (colons : Nat) : List Char → Bool
  | [] => colons == 0
  | ':' :: rest => colons < 2 && isTargetFrom (colons + 1) rest
  | _ :: rest => colons != 1 && isTargetFrom 0 rest

def isTarget (target : String) : Bool := target != "" && isTargetFrom 0 target.toList

/-- A kind of thing, and the entries that describe it further, the latest first. -/
structure Description where
  kind : String
  entries : List (Node × Node)

def isKey (name : String) (entry : Node × Node) : Bool := entry.1.text? == some name

def describe? (usual : Option String) (entries : List (Node × Node)) : Option Description :=
  let entries := entries.reverse
  let others := entries.filter fun e => !isKey "kind" e
  match entries.find? (isKey "kind") with
  | some (_, kind) => kind.text?.map fun kind => ⟨kind, others⟩
  | none => usual.map fun kind => ⟨kind, others⟩

def mapEntries? : Node → Option (List (Node × Node))
  | .map entries => some entries
  | _ => none

def Description.get? (d : Description) (name : String) : Option Node :=
  (d.entries.find? (isKey name)).map Prod.snd

def Description.optional? {α : Type} (d : Description) (name : String) (read : Node → Option α) :
    Option (Option α) :=
  match d.get? name with
  | none => some none
  | some node => if node.isNull then some none else (read node).map some

def Description.isMadeOf (d : Description) (names : List String) : Bool :=
  d.entries.all fun e => names.any fun name => isKey name e

def Description.part? (d : Description) (name : String) (usual : Option String) :
    Option Description :=
  ((d.get? name).bind mapEntries?).bind (describe? usual)

def defaultLayout : Layout := .read "\x7bd\x7d \x7bl\x7d \x7bt\x7d - \x7bm\x7d\x7bn\x7d"

def encoderOf? (d : Description) : Option Encoder := do
  match d.kind with
  | "pattern" =>
    guard (d.isMadeOf ["pattern"])
    let pattern ← d.optional? "pattern" Node.text?
    return .layout ((pattern.map Layout.read).getD defaultLayout)
  | "json" =>
    guard (d.isMadeOf [])
    return .json
  | _ => none

def encoder? (d : Description) : Option Encoder := do
  let encoder ← d.optional? "encoder" fun node =>
    ((mapEntries? node).bind (describe? (some "pattern"))).bind encoderOf?
  return encoder.getD (.layout defaultLayout)

def file? (d : Description) : Option (Sink × Encoder) := do
  guard (d.isMadeOf ["path", "encoder", "append"])
  let path ← (d.get? "path").bind Node.text?
  let keep ← d.optional? "append" Node.flag?
  return (.file path (keep.getD true), ← encoder? d)

def stream? (node : Node) : Option Sink := do
  match ← node.text? with
  | "stdout" => return .output
  | "stderr" => return .errors
  | _ => none

/-- What is for terminals only goes nowhere. -/
def console? (d : Description) : Option (Sink × Encoder) := do
  guard (d.isMadeOf ["target", "encoder", "tty_only"])
  let sink ← d.optional? "target" stream?
  let terminalOnly ← d.optional? "tty_only" Node.flag?
  return (if terminalOnly == some true then .nowhere else sink.getD .output, ← encoder? d)

def sizeUnits : List String := ["b", "kb", "kib", "mb", "mib", "gb", "gib", "tb", "tib"]

def isSize (node : Node) : Bool :=
  node.natural?.isSome ||
    match node.text? with
    | none => false
    | some text =>
      let digits := text.toList.takeWhile Char.isDigit
      let unit := (text.toList.dropWhile Char.isDigit).filter (!Unicode.isSpace ·)
      !digits.isEmpty && (unit.isEmpty || sizeUnits.contains (String.ofList unit).toLower)

def timeUnits : List String := ["second", "minute", "hour", "day", "week", "month", "year"]

def isInterval (node : Node) : Bool :=
  node.natural?.isSome ||
    match node.text? with
    | none => false
    | some text =>
      let digits := text.toList.takeWhile Char.isDigit
      let unit := String.ofList
        ((text.toList.dropWhile Char.isDigit).filter (!Unicode.isSpace ·))
      !digits.isEmpty && timeUnits.any fun u => unit.toLower == u || unit.toLower == u ++ "s"

def isTrigger (d : Description) : Bool :=
  match d.kind with
  | "size" => d.isMadeOf ["limit"] && (d.get? "limit").any isSize
  | "time" =>
    d.isMadeOf ["interval", "modulate", "max_random_delay"]
      && (d.get? "interval").all isInterval
      && (d.get? "modulate").all (fun node => node.flag?.isSome)
      && (d.get? "max_random_delay").all fun node => node.natural?.isSome
  | "onstartup" => d.isMadeOf ["min_size"] && (d.get? "min_size").all fun n => n.natural?.isSome
  | _ => false

/-- A pattern says where the number of a file comes. Files are not compressed. -/
def isFilePattern (text : String) : Bool :=
  (text.splitOn "\x7b\x7d").length != 1 && !text.endsWith ".gz"

def isRoller (d : Description) : Bool :=
  match d.kind with
  | "delete" => d.isMadeOf []
  | "fixed_window" =>
    d.isMadeOf ["pattern", "base", "count"]
      && ((d.get? "pattern").bind Node.text?).any isFilePattern
      && (d.get? "count").any (fun node => node.natural?.isSome)
      && (d.get? "base").all fun node => node.isNull || node.natural?.isSome
  | _ => false

def rollingFile? (d : Description) : Option (Sink × Encoder) := do
  guard (d.isMadeOf ["path", "encoder", "append", "policy"])
  let policy ← d.part? "policy" (some "compound")
  guard (policy.kind == "compound" && policy.isMadeOf ["trigger", "roller"])
  guard (isTrigger (← policy.part? "trigger" none) && isRoller (← policy.part? "roller" none))
  file? { d with entries := d.entries.filter fun e => !isKey "policy" e }

def filter? (d : Description) : Option Threshold :=
  if d.kind == "threshold" then ((d.get? "level").bind Node.text?).bind Threshold.named? else none

def appender? (name : String) (d : Description) (filters : List Description) : Option Appender := do
  let d := { d with entries := d.entries.filter fun e => !isKey "filters" e }
  let (sink, encoder) ← match d.kind with
    | "file" => file? d
    | "rolling_file" => rollingFile? d
    | "console" => console? d
    | _ => none
  return ⟨name, sink, encoder, filters.filterMap filter?⟩

def listItems? : Node → Option (List Node)
  | .list items => some items
  | _ => none

/-- Every appender and every filter has to have a kind, whether or not there is such a kind. -/
def described? (node : Node) : Option (Description × List Description) := do
  let d ← describe? none (← node.entries?)
  let filters ← match d.get? "filters" with
    | none => some []
    | some node => do
      (← listItems? node).mapM fun node => do describe? none (← mapEntries? node)
  return (d, filters)

def durationUnits : List String :=
  ["nanos", "nsec", "ns", "usec", "us", "millis", "msec", "ms", "seconds", "second", "secs", "sec",
   "s", "minutes", "minute", "min", "mins", "m", "hours", "hour", "hr", "hrs", "h", "days", "day",
   "d", "weeks", "week", "wk", "wks", "w", "months", "month", "M", "years", "year", "yr", "yrs",
   "y"]

def isDuration : Nat → List Char → Bool
  | 0, _ => false
  | fuel + 1, cs =>
    let digits := cs.takeWhile Char.isDigit
    let rest := (cs.dropWhile Char.isDigit).dropWhile Unicode.isSpace
    let unit := rest.takeWhile Char.isAlpha
    let rest := (rest.dropWhile Char.isAlpha).dropWhile Unicode.isSpace
    !digits.isEmpty && durationUnits.contains (String.ofList unit)
      && (rest.isEmpty || isDuration fuel rest)

def isRefreshRate (node : Node) : Bool :=
  node.isNull || node.text?.any fun text =>
    isDuration (text.length + 1) (text.toList.dropWhile Unicode.isSpace)

def setup? (node : Node) : Option Setup := do
  let fields ← fields? ["refresh_rate", "root", "appenders", "loggers"] node
  guard ((fields.lookup "refresh_rate").all isRefreshRate)
  let (threshold, rootAppenders) ← root? (fields.lookup "root")
  let descriptions ←
    (← ((fields.lookup "appenders").map named?).getD (some [])).mapM fun (name, node) => do
      return (name, ← described? node)
  let loggers ←
    (← ((fields.lookup "loggers").map named?).getD (some [])).mapM fun (name, node) =>
      logger? name node
  return {
    directory := none
    strict := false
    threshold
    rootAppenders
    appenders := descriptions.filterMap fun (name, d, filters) => appender? name d filters
    loggers := loggers.filter fun l => isTarget l.target }

end Settings

def Setup.read? (text : String) : Option Setup := (Node.read? text).bind Settings.setup?

end DocQuery.Log
