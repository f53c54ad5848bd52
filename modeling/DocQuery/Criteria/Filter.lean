import DocQuery.Bson.Equality
import DocQuery.Criteria.Input
import DocQuery.Criteria.Name

/-!
Filters and their values. A value is classified once, when it is built: it is a range, a list, a
list of conditions or a scalar, and it keeps the value it was built from and its canonical text.
-/
namespace DocQuery

mutual
inductive Shape where
  | scalar (v : Value)
  | list (items : List Value)
  | range (start stop : Value)
  | conditions (filters : List Filter)

structure FilterValue where
  canonical : String
  raw : Value
  shape : Shape

structure Filter where
  field : Name
  operator : Operator
  value : FilterValue
end

/-- The pairs of keys that bound a range, in the order they are looked for. -/
def boundKeys : List (String × String) :=
  [("start", "end"), ("startDate", "endDate"), ("from", "to")]

namespace Document

def isTriple (d : Document) : Bool :=
  ["field", "operator", "value"].all d.contains

def range? (d : Document) : Option (Value × Value) :=
  boundKeys.findSome? fun (low, high) =>
    match d.get? low, d.get? high with
    | some start, some stop => some (start, stop)
    | _, _ => none

/-- The field and the operator of a filter document. A missing part or an undefined value is found
first, then a bad operator, then a bad field. -/
def fieldAndOperator (d : Document) : Except Error (Name × Operator) :=
  match d.get? "value", d.get? "field", d.get? "operator" with
  | none, _, _ | some .undefined, _, _ | _, none, _ | _, _, none =>
    .error (.invalidArgument .filter)
  | some _, some field, some operator => do
    let token := operator.naturalText
    let op ← match operator with
      | .string token =>
        match Operator.ofToken? token with
        | some op => .ok op
        | none => .error (.invalidArgument (.operator token))
      | _ => .error (.invalidArgument (.operator token))
    return (← Name.ofValue .field field, op)

end Document

/-- Whether an array is read as conditions. Its first item decides. -/
def startsWithTriple : List Value → Bool
  | .document d :: _ => Document.isTriple d
  | _ => false

namespace FilterValue

mutual
def ofValue : Value → Except Error FilterValue
  | .array items =>
    if startsWithTriple items then do
      let filters ← conditionsOf 0 items
      return ⟨(Value.array items).jsonText, .array items, .conditions filters⟩
    else
      .ok ⟨",".intercalate (items.map Value.naturalText), .array items, .list items⟩
  | .document d =>
    match Document.range? d with
    | some (start, stop) => .ok ⟨(Value.document d).jsonText, .document d, .range start stop⟩
    | none => .ok ⟨(Value.document d).naturalText, .document d, .scalar (.document d)⟩
  | v => .ok ⟨v.naturalText, v, .scalar v⟩

def conditionsOf (index : Nat) : List Value → Except Error (List Filter)
  | [] => .ok []
  | .document d :: rest =>
    if Document.isTriple d then do
      let (field, op) ← Document.fieldAndOperator d
      let value ← ofEntry d
      return ⟨field, op, value⟩ :: (← conditionsOf (index + 1) rest)
    else .error (.invalidArgument (.condition index))
  | _ :: _ => .error (.invalidArgument (.condition index))

def ofEntry : List (String × Value) → Except Error FilterValue
  | [] => .error (.invalidArgument .filter)
  | (k, v) :: rest => if k = "value" then ofValue v else ofEntry rest
end

theorem ofEntry_eq (d : Document) : ofEntry d =
    match d.get? "value" with
    | some v => ofValue v
    | none => .error (.invalidArgument .filter) := by
  induction d with
  | nil => rfl
  | cons e rest ih =>
    obtain ⟨k, v⟩ := e
    by_cases h : k = "value" <;> simp [ofEntry, Document.get?, h, ih]

def range (start stop : Value) : Except Error FilterValue :=
  ofValue (.document [("start", start), ("end", stop)])

def list (items : List Value) : Except Error FilterValue := ofValue (.array items)

end FilterValue

namespace Filter

def of (field : String) (op : Operator) (v : Value) : Except Error Filter := do
  let name ← Name.ofText .field field
  return ⟨name, op, ← FilterValue.ofValue v⟩

def ofDocument (d : Document) : Except Error Filter := do
  let (field, op) ← d.fieldAndOperator
  return ⟨field, op, ← FilterValue.ofEntry d⟩

def ofJson (j : Json) : Except Error Filter := do ofDocument (← Document.ofInput j)

def document (f : Filter) : Document :=
  [("field", .string f.field.text), ("operator", .string f.operator.token), ("value", f.value.raw)]

end Filter

namespace FilterValue

def ofConditions (filters : List Filter) : Except Error FilterValue :=
  if filters.isEmpty then .error (.invalidArgument .noConditions)
  else
    let raw := Value.array (filters.map fun f => .document f.document)
    .ok ⟨raw.jsonText, raw, .conditions filters⟩

def conditions (v : FilterValue) : Except Error (List Filter) :=
  match v.shape with
  | .conditions filters => .ok filters
  | _ => .error (.typeMismatch v.canonical .conditions)

def bounds (v : FilterValue) : Except Error (Value × Value) :=
  match v.shape with
  | .range start stop => .ok (start, stop)
  | _ => .error (.typeMismatch v.canonical .range)

def items (v : FilterValue) : Except Error (List Value) :=
  match v.shape with
  | .list items => .ok items
  | _ => .error (.typeMismatch v.canonical .list)

end FilterValue

mutual
def Shape.identical : Shape → Shape → Bool
  | .scalar a, .scalar b => a.identical b
  | .list a, .list b => Value.identicalItems a b
  | .range a c, .range b d => a.identical b && c.identical d
  | .conditions a, .conditions b => Filter.allIdentical a b
  | _, _ => false

def FilterValue.identical : FilterValue → FilterValue → Bool
  | ⟨c, r, s⟩, ⟨d, q, t⟩ => c == d && r.identical q && Shape.identical s t

def Filter.identical : Filter → Filter → Bool
  | ⟨f, o, v⟩, ⟨g, p, w⟩ => f == g && o == p && FilterValue.identical v w

def Filter.allIdentical : List Filter → List Filter → Bool
  | [], [] => true
  | a :: as, b :: bs => Filter.identical a b && Filter.allIdentical as bs
  | _, _ => false
end

end DocQuery
