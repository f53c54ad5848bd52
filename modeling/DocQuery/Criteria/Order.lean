import DocQuery.Criteria.Name

/-!
Orders of results: none, or one key and a direction.
-/
namespace DocQuery

inductive Direction where
  | ascending
  | descending
deriving DecidableEq, Repr

namespace Direction

def word : Direction → String
  | ascending => "ASC"
  | descending => "DESC"

def ofWord? (text : String) : Option Direction :=
  [ascending, descending].find? fun d => d.word == text

def ofText (text : String) : Except Error Direction :=
  match ofWord? text.toUpper with
  | some d => .ok d
  | none => .error (.invalidArgument (.direction text))

def sign : Direction → Int32
  | ascending => 1
  | descending => -1

end Direction

inductive Order where
  | unordered
  | by (key : Name) (direction : Direction)
deriving DecidableEq

namespace Order

def of (direction : Direction) (key : String) : Except Error Order :=
  (Name.ofText .order key).map fun name => .by name direction

/-- Without a key there is no order, and the direction is not looked at. -/
def ofTexts (key direction : Option String) : Except Error Order :=
  match key with
  | none => .ok .unordered
  | some key =>
    if key = "" then .ok .unordered
    else
      match direction with
      | none => of .ascending key
      | some text => (Direction.ofText text).bind fun d => of d key

def key? : Order → Option Name
  | unordered => none
  | .by key _ => some key

def direction? : Order → Option Direction
  | unordered => none
  | .by _ direction => some direction

end Order

end DocQuery
