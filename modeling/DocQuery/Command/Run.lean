import DocQuery.Command.Arguments
import DocQuery.Command.Data
import DocQuery.Store.Repository

/-!
Carrying out commands, statement by statement. What takes the output and what takes the log are
given to a command, and a text that was taken stays taken whatever happens afterwards.
-/
namespace DocQuery.Command

/-- What takes texts, one after the other. It can fail at any of them, with a part of it taken. -/
abbrev Receiver (m : Type → Type) := String → ExceptT Error m Unit

structure Channels (m : Type → Type) where
  take : Receiver m
  log : Log.Line → m Unit

section Texts

def argument (files : Files) (arg : String) : Except Error String :=
  match arg.toList with
  | '@' :: path =>
    match (files (String.ofList path)).bind Entry.text? with
    | some text => .ok text
    | none => .error .io
  | _ => .ok arg

def request (files : Files) (arg : String) : Except Error Criteria := do
  Criteria.read (← argument files arg)

def compiled (q : Query) (pretty : Bool) : String :=
  (if pretty then q.relaxed.pretty else q.relaxed.compact) ++ "\n"

def optionText (n : Option UInt64) : String :=
  match n with
  | none => "None"
  | some n => "Some(" ++ toString n.toNat ++ ")"

def summary (criteria : Criteria) : String :=
  let order := match criteria.order.key? with
    | some key => key.text
    | none => "none"
  "ok: " ++ toString criteria.filters.length ++ " filter(s), order=" ++ order
    ++ ", limit=" ++ optionText criteria.limit ++ ", page=" ++ optionText criteria.page
    ++ ", offset=" ++ optionText criteria.offset ++ "\n"

def itemLine (d : Document) : String := d.relaxed.compact ++ "\n"

def finished (data : String) (p : Page) : Log.Line :=
  ⟨.info, "criteria_bson::cli::runner",
   "run " ++ data ++ ": total=" ++ toString p.total.toNat ++ " next_page=" ++ optionText p.next,
   ⟨"criteria_bson::cli::runner", false, 52⟩⟩

end Texts

section Perform

variable {m : Type → Type} [Monad m] (ch : Channels m) (c : Config) (files : Files)

def Channels.logAll : List Log.Line → ExceptT Error m Unit
  | [] => pure ()
  | line :: rest => do
    ch.log line
    logAll rest

def handOn (take : Receiver m) : List String → ExceptT Error m Unit
  | [] => pure ()
  | text :: rest => do
    take text
    handOn take rest

def report (text : Criteria → Query → String) (arg : String) : ExceptT Error m Unit := do
  let criteria ← request files arg
  let v ← criteria.convert c
  ch.logAll v.log
  ch.take (text criteria v.query)

/-- Puts the documents of a file into an empty store and searches it. A search logs also when it
fails. -/
def run (arg data : String) : ExceptT Error m Unit := do
  let criteria ← request files arg
  let store ← Data.load data (files data)
  let found := (Repository.mk c [] store).search [] (fun _ _ => false) criteria
  ch.logAll found.log
  let page ← found.result
  handOn ch.take (page.items.map itemLine)
  ch.log (finished data page)

def perform : Action → ExceptT Error m Unit
  | .compile arg pretty => report ch c files (fun _ q => compiled q pretty) arg
  | .check arg => report ch c files (fun criteria _ => summary criteria) arg
  | .run arg data => run ch c files arg data

end Perform

inductive Emission where
  | text (s : String)
  | line (l : Log.Line)

structure Run where
  emitted : List Emission
  ended : Except Error Unit

namespace Run

def failed (e : Error) : Run := ⟨[], .error e⟩

def ofExcept (r : Except Error Run) : Run :=
  match r with
  | .ok run => run
  | .error e => failed e

/-- Keeps all that it is given, the last first. -/
def recorder : Channels (StateM (List Emission)) where
  take text := modify (.text text :: ·)
  log line := modify (.line line :: ·)

def ofAction (p : ExceptT Error (StateM (List Emission)) Unit) : Run :=
  let (ended, emitted) := p.run.run []
  ⟨emitted.reverse, ended⟩

def texts (r : Run) : List String :=
  r.emitted.filterMap fun
    | .text s => some s
    | .line _ => none

def lines (r : Run) : List Log.Line :=
  r.emitted.filterMap fun
    | .line l => some l
    | .text _ => none

def result (r : Run) : Except Error String := r.ended.map fun _ => String.join r.texts

end Run

def act (c : Config) (files : Files) (a : Action) : Run :=
  .ofAction (perform Run.recorder c files a)

end DocQuery.Command
