import DocQuery.Json.Syntax

/-!
JSON values: numbers are evaluated, every key of an object is there once, keys are in order. A text
whose numbers or strings have no value, or that nests too deeply, has none either.
-/
namespace DocQuery

inductive Json where
  | null
  | bool (b : Bool)
  | number (n : Json.Number)
  | string (s : String)
  | array (items : List Json)
  | object (members : List (String × Json))
deriving Inhabited

namespace Json

def int (n : Int) : Json := .number (.int n)

def insertMember (key : String) (value : Json) : List (String × Json) → List (String × Json)
  | [] => [(key, value)]
  | (k, v) :: rest =>
    if key = k then (key, value) :: rest
    else if key < k then (key, value) :: (k, v) :: rest
    else (k, v) :: insertMember key value rest

def sorted (members : List (String × Json)) : Json :=
  .object (members.foldl (fun done (k, v) => insertMember k v done) [])

def member? (key : String) (members : List (String × Json)) : Option Json :=
  (members.find? fun m => m.1 == key).map (·.2)

def maxDepth : Nat := 127

namespace Syntax

mutual
def value? : Nat → Syntax → Option Json
  | _, .null => some .null
  | _, .bool b => some (.bool b)
  | _, .number n => n.number?.map .number
  | _, .string s => s.text?.map .string
  | 0, .array _ | 0, .object _ => none
  | depth + 1, .array items => (itemValues? depth items).map .array
  | depth + 1, .object members => (memberValues? depth members).map Json.sorted

def itemValues? : Nat → List Syntax → Option (List Json)
  | _, [] => some []
  | depth, s :: rest => do
    let v ← value? depth s
    return v :: (← itemValues? depth rest)

def memberValues? : Nat → List (Option String × Syntax) → Option (List (String × Json))
  | _, [] => some []
  | depth, (key, s) :: rest => do
    let v ← value? depth s
    return (← key, v) :: (← memberValues? depth rest)
end

mutual
def nestsWithin : Nat → Syntax → Bool
  | 0, .array _ | 0, .object _ => false
  | depth + 1, .array items => itemsNestWithin depth items
  | depth + 1, .object members => membersNestWithin depth members
  | _, _ => true

def itemsNestWithin : Nat → List Syntax → Bool
  | _, [] => true
  | depth, s :: rest => nestsWithin depth s && itemsNestWithin depth rest

def membersNestWithin : Nat → List (Option String × Syntax) → Bool
  | _, [] => true
  | depth, (_, s) :: rest => nestsWithin depth s && membersNestWithin depth rest
end

def areDistinct : List (Option String) → Bool
  | [] => true
  | key :: rest => !rest.contains key && areDistinct rest

mutual
def hasDistinctKeys : Syntax → Bool
  | .array items => itemsHaveDistinctKeys items
  | .object members => areDistinct (members.map (·.1)) && membersHaveDistinctKeys members
  | _ => true

def itemsHaveDistinctKeys : List Syntax → Bool
  | [] => true
  | s :: rest => hasDistinctKeys s && itemsHaveDistinctKeys rest

def membersHaveDistinctKeys : List (Option String × Syntax) → Bool
  | [] => true
  | (_, s) :: rest => hasDistinctKeys s && membersHaveDistinctKeys rest
end

/-- The last of the members with the same key, at the place where it stands. -/
def keepLast : List (Option String × Syntax) → List (Option String × Syntax)
  | [] => []
  | m :: rest => if rest.any fun n => n.1 == m.1 then keepLast rest else m :: keepLast rest

mutual
def distinct : Syntax → Syntax
  | .array items => .array (distinctItems items)
  | .object members => .object (keepLast (distinctMembers members))
  | s => s

def distinctItems : List Syntax → List Syntax
  | [] => []
  | s :: rest => distinct s :: distinctItems rest

def distinctMembers : List (Option String × Syntax) → List (Option String × Syntax)
  | [] => []
  | (key, s) :: rest => (key, distinct s) :: distinctMembers rest
end

def settled? (s : Syntax) : Option Syntax := (s.value? maxDepth).map fun _ => s.distinct

end Syntax

def read? (text : String) : Option Json :=
  (Syntax.read? text).bind (Syntax.value? maxDepth)

end Json

end DocQuery
