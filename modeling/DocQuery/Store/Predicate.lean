import DocQuery.Bson.Order
import DocQuery.Criteria.Error
import DocQuery.Pattern.Search
import DocQuery.Store.Path

/-!
Evaluating predicates on documents. A predicate is a document: all its entries must hold, where
`$or` and `$and` join predicates and every other key is a path with a condition on the value there.
A condition that starts with an operator is a list of operators that must all hold, any other is a
value to be equal to.
-/
namespace DocQuery.Predicate

abbrev Resolver := String → Except Error Pattern

def isDollar (key : String) : Bool := key.startsWith "$"

def isOperators (condition : Document) : Bool :=
  match condition with
  | (key, _) :: _ => isDollar key
  | [] => false

/-- An absent value equals nothing. -/
def equals (v : Option Value) (arg : Value) : Bool := v.any fun v => v.equal arg

/-- Values that have no order between them satisfy no range. -/
def compares (v : Option Value) (arg : Value) (wanted : Ordering → Bool) : Bool :=
  (v.bind fun v => v.compareInClass? arg).any wanted

def isIn (v : Option Value) (op : String) : Value → Except Error Bool
  | .array items => .ok (v.any fun v => items.any fun item => v.equal item)
  | _ => .error (.internal (.notAnArray op))

def isFound (resolve : Resolver) (v : Option Value) : Value → Except Error Bool
  | .string pattern =>
    match v.bind Value.text? with
    | some text => (resolve pattern).map fun p => p.isFoundIn text
    | none => .ok false
  | _ => .error (.internal .patternOperand)

def operatorHolds (resolve : Resolver) (v : Option Value) (op : String) (arg : Value) :
    Except Error Bool :=
  match op with
  | "$eq" => .ok (equals v arg)
  | "$ne" => .ok (!equals v arg)
  | "$gt" => .ok (compares v arg Ordering.isGT)
  | "$gte" => .ok (compares v arg Ordering.isGE)
  | "$lt" => .ok (compares v arg Ordering.isLT)
  | "$lte" => .ok (compares v arg Ordering.isLE)
  | "$in" => isIn v op arg
  | "$nin" => (isIn v op arg).map not
  | "$regex" => isFound resolve v arg
  | _ => .error (.internal (.predicateOperator op))

mutual
def conditionHolds (resolve : Resolver) (v : Option Value) : Value → Except Error Bool
  | .document condition =>
    if isOperators condition then operatorsHold resolve v condition
    else .ok (equals v (.document condition))
  | condition => .ok (equals v condition)

def operatorsHold (resolve : Resolver) (v : Option Value) :
    List (String × Value) → Except Error Bool
  | [] => .ok true
  | (op, arg) :: rest => do
    let holds ←
      if op = "$not" then (conditionHolds resolve v arg).map not
      else operatorHolds resolve v op arg
    if holds then operatorsHold resolve v rest else .ok false
end

def isDocument : Value → Bool
  | .document _ => true
  | _ => false

mutual
def entriesHold (resolve : Resolver) (d : Document) : List (String × Value) → Except Error Bool
  | [] => .ok true
  | (key, condition) :: rest => do
    let holds ←
      if key = "$or" then someBranch resolve d key condition
      else if key = "$and" then everyBranch resolve d key condition
      else if isDollar key then .error (.internal (.topLevelOperator key))
      else conditionHolds resolve (d.at? key) condition
    if holds then entriesHold resolve d rest else .ok false

/-- All branches must be documents, whether they are reached or not. -/
def someBranch (resolve : Resolver) (d : Document) (key : String) : Value → Except Error Bool
  | .array branches =>
    if branches.all isDocument then someHolds resolve d branches
    else .error (.internal (.notDocuments key))
  | _ => .error (.internal (.notAnArray key))

def everyBranch (resolve : Resolver) (d : Document) (key : String) : Value → Except Error Bool
  | .array branches =>
    if branches.all isDocument then everyHolds resolve d branches
    else .error (.internal (.notDocuments key))
  | _ => .error (.internal (.notAnArray key))

def someHolds (resolve : Resolver) (d : Document) : List Value → Except Error Bool
  | .document p :: rest => do
    if ← entriesHold resolve d p then .ok true else someHolds resolve d rest
  | _ => .ok false

def everyHolds (resolve : Resolver) (d : Document) : List Value → Except Error Bool
  | .document p :: rest => do
    if ← entriesHold resolve d p then everyHolds resolve d rest else .ok false
  | _ => .ok true
end

end DocQuery.Predicate
