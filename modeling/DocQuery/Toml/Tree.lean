/-!
Tables of a TOML text. A table can be built up from several places, and how it came about decides
which places may still add to it.
-/
namespace DocQuery.Toml

inductive Origin where
  /-- Named only on the way to a table inside it. -/
  | implied
  /-- Made by a key with dots. -/
  | dotted
  /-- Opened by a header of its own. -/
  | declared
  /-- Written as a value, and complete. -/
  | closed
deriving DecidableEq, Repr

/-- Of a list of tables only the last is kept, since headers and keys refer to that one. -/
inductive Tree where
  | text (s : String)
  | scalar
  | array (items : List Tree)
  | table (origin : Origin) (members : List (String × Tree))
  | tables (last : List (String × Tree))

abbrev Members := List (String × Tree)

namespace Members

def find? (key : String) (ms : Members) : Option Tree :=
  (List.find? (fun m => m.1 == key) ms).map (·.2)

def put (key : String) (t : Tree) : Members → Members
  | [] => [(key, t)]
  | (k, old) :: rest => if k = key then (key, t) :: rest else (k, old) :: put key t rest

/-- Whether a path may lead through a table of this origin. A key with dots may only add to tables
that such keys made, or pass through implied ones. -/
def isOpen (byDots atEnd : Bool) : Origin → Bool
  | .closed => false
  | .declared => !byDots
  | .implied => !byDots || !atEnd
  | .dotted => true

def enter? (byDots : Bool) (change : Members → Option Members) :
    List String → Members → Option Members
  | [], ms => change ms
  | k :: path, ms =>
    match find? k ms with
    | none => do
      let sub ← enter? byDots change path []
      return put k (.table (if byDots then .dotted else .implied) sub) ms
    | some (.table origin sub) =>
      if isOpen byDots path.isEmpty origin then do
        let sub ← enter? byDots change path sub
        return put k (.table origin sub) ms
      else none
    | some (.tables sub) =>
      if byDots && path.isEmpty then none
      else do
        let sub ← enter? byDots change path sub
        return put k (.tables sub) ms
    | some _ => none

def define? (key : String) (t : Tree) (ms : Members) : Option Members :=
  match find? key ms with
  | none => some (ms ++ [(key, t)])
  | some _ => none

def defineAt? (path : List String) (key : String) (t : Tree) (ms : Members) : Option Members :=
  enter? true (define? key t) path ms

/-- Opens a table by its header. A table that was only implied so far may be opened. -/
def openTable? (key : String) (ms : Members) : Option Members :=
  match find? key ms with
  | none => some (put key (.table .declared []) ms)
  | some (.table .implied sub) => some (put key (.table .declared sub) ms)
  | some _ => none

def openNext? (key : String) (ms : Members) : Option Members :=
  match find? key ms with
  | none | some (.tables _) => some (put key (.tables []) ms)
  | some _ => none

end Members

end DocQuery.Toml
