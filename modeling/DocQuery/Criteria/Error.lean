import DocQuery.Criteria.Operator

/-!
What can go wrong, by cause, and the words for it.
-/
namespace DocQuery

inductive NameRole where
  | field
  | order
deriving DecidableEq, Repr

def NameRole.text : NameRole → String
  | field => "field name"
  | order => "order key"

inductive Invalid where
  | emptyName (role : NameRole)
  | operator (text : String)
  | direction (text : String)
  | filter
  | condition (index : Nat)
  | noConditions
  | jsonValue
  | jsonObject
  | notAnObject
  | line (file : String) (number : Nat)
deriving DecidableEq, Repr

inductive ShapeKind where
  | conditions
  | range
  | list
deriving DecidableEq, Repr

inductive Misshapen where
  | operand (kind : ShapeKind)
  | pattern (text : String)
deriving DecidableEq, Repr

/-- A predicate that no compiled query has, or a store that fails. -/
inductive Broken where
  | noHandler (op : Operator)
  | topLevelOperator (key : String)
  | notAnArray (key : String)
  | notDocuments (key : String)
  | patternOperand
  | patternNotCompiled (pattern : String)
  | predicateOperator (key : String)
  | indexRefused (field : String)
deriving DecidableEq, Repr

inductive BadConfig where
  | mergePolicy (text : String)
  | scalarEncoding (text : String)
  | emptyIdentifier
  | fileNotFound (path : String)
  | unreadable
deriving DecidableEq, Repr

inductive Error where
  | invalidArgument (cause : Invalid)
  | typeMismatch (canonical : String) (expected : ShapeKind)
  | invalidShape (cause : Misshapen)
  | unsupportedCondition (op : Operator)
  | internal (cause : Broken)
  | json
  | config (cause : BadConfig)
  | io
deriving DecidableEq, Repr

inductive ErrorKind where
  | validation
  | domain
  | internal
  | io
deriving DecidableEq, Repr

def Invalid.text : Invalid → String
  | emptyName role => role.text ++ " must not be empty"
  | operator text => "The filter operator " ++ text ++ " is invalid"
  | direction text => "The order type " ++ text ++ " is invalid"
  | filter => "The filter is invalid"
  | condition index => "The OR condition at index " ++ toString index ++ " is invalid"
  | noConditions => "OR requires at least one condition"
  | jsonValue => "invalid JSON value"
  | jsonObject => "invalid JSON object"
  | notAnObject => "expected JSON object"
  | line file number => file ++ ":" ++ toString number

def ShapeKind.noun : ShapeKind → String
  | conditions => "an OR condition list"
  | range => "a BETWEEN range"
  | list => "a primitive array"

def Misshapen.text : Misshapen → String
  | operand .range => "BETWEEN operator requires an object with start and end values"
  | operand .conditions => "OR operator requires an array of OrCondition objects"
  | operand .list => "IN operator requires an array of values"
  | pattern text => "invalid CONTAINS pattern " ++ text

def Broken.text : Broken → String
  | noHandler op => "no predicate handler for operator " ++ op.token
  | topLevelOperator key => "unsupported top-level operator " ++ key
  | notAnArray key => key ++ " expects an array"
  | notDocuments key => key ++ " expects documents"
  | patternOperand => "$regex expects a string pattern"
  | patternNotCompiled pattern => "pattern " ++ pattern ++ " was not compiled"
  | predicateOperator key => "unsupported predicate operator " ++ key
  | indexRefused field => "index " ++ field ++ " refused"

/-- Nothing where the cause lies in the text of a file. -/
def BadConfig.text? : BadConfig → Option String
  | mergePolicy text => some ("unknown merge policy: " ++ text)
  | scalarEncoding text => some ("unknown scalar encoding: " ++ text)
  | emptyIdentifier => some "identifier fields must not be empty"
  | fileNotFound path => some ("config file not found: " ++ path)
  | unreadable => none

namespace Error

def kind : Error → ErrorKind
  | invalidArgument _ | json => .validation
  | typeMismatch .. | invalidShape _ | unsupportedCondition _ => .domain
  | internal _ => .internal
  | config _ | io => .io

def isValidation (e : Error) : Bool := e.kind == .validation

def isDomain (e : Error) : Bool := e.kind == .domain

def message : Error → String
  | invalidArgument cause => "Invalid argument: " ++ cause.text
  | typeMismatch canonical expected =>
    "Type mismatch: value " ++ canonical ++ " is not " ++ expected.noun
  | invalidShape cause => cause.text
  | unsupportedCondition op => "unsupported operator in OR condition: " ++ op.token
  | internal cause => "Internal invariant violated: " ++ cause.text
  | json => "Serde JSON"
  | config cause =>
    match cause.text? with
    | some text => "Config error: " ++ text
    | none => "Config error"
  | io => "I/O error"

end Error

end DocQuery
