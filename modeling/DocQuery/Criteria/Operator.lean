/-!
The operators of filters, each known by its token.
-/
namespace DocQuery

inductive Operator where
  | equal
  | notEqual
  | greater
  | less
  | greaterOrEqual
  | lessOrEqual
  | contains
  | notContains
  | between
  | anyOf
  | oneOf
  | noneOf
deriving DecidableEq, Repr

namespace Operator

def all : List Operator :=
  [equal, notEqual, greater, less, greaterOrEqual, lessOrEqual, contains, notContains, between,
   anyOf, oneOf, noneOf]

def token : Operator → String
  | equal => "="
  | notEqual => "!="
  | greater => ">"
  | less => "<"
  | greaterOrEqual => ">="
  | lessOrEqual => "<="
  | contains => "CONTAINS"
  | notContains => "NOT_CONTAINS"
  | between => "BETWEEN"
  | anyOf => "OR"
  | oneOf => "IN"
  | noneOf => "NOT_IN"

def ofToken? (text : String) : Option Operator := all.find? fun op => op.token == text

/-- Composite operators take a value with structure: a range, conditions or a list. -/
def isComposite : Operator → Bool
  | between | anyOf | oneOf | noneOf => true
  | _ => false

theorem ofToken?_token (op : Operator) : ofToken? op.token = some op := by
  cases op <;> decide

theorem ofToken?_eq_some_iff (text : String) (op : Operator) :
    ofToken? text = some op ↔ op.token = text := by
  constructor
  · intro h
    simpa using List.find?_some h
  · rintro rfl
    exact ofToken?_token op

end Operator

end DocQuery
