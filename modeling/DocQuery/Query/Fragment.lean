import DocQuery.Config.Basic
import DocQuery.Criteria.Filter

/-!
Fragments: what one filter contributes to a predicate. Each fragment has a single key, the name of
the field or `$or`.
-/
namespace DocQuery

structure Fragment where
  key : String
  condition : Value

namespace Fragment

def entry (f : Fragment) : String × Value := (f.key, f.condition)

def document (f : Fragment) : Document := [f.entry]

end Fragment

namespace FilterValue

/-- The argument of a simple operator. Only a scalar can keep its type. -/
def argument (v : FilterValue) : ScalarEncoding → Value
  | .canonical => .string v.canonical
  | .typed =>
    match v.shape with
    | .scalar raw => raw
    | _ => .string v.canonical

end FilterValue

namespace Operator

def condition? (op : Operator) (v : FilterValue) (encoding : ScalarEncoding) : Option Document :=
  match op with
  | equal => some [("$eq", v.argument encoding)]
  | notEqual => some [("$ne", v.argument encoding)]
  | greater => some [("$gt", v.argument encoding)]
  | greaterOrEqual => some [("$gte", v.argument encoding)]
  | less => some [("$lt", v.argument encoding)]
  | lessOrEqual => some [("$lte", v.argument encoding)]
  | contains => some [("$regex", .string v.canonical)]
  | notContains => some [("$not", .document [("$regex", .string v.canonical)])]
  | between | anyOf | oneOf | noneOf => none

end Operator

namespace Filter

def branch (f : Filter) (encoding : ScalarEncoding) : Except Error Document :=
  match f.operator.condition? f.value encoding with
  | some condition => .ok [(f.field.text, .document condition)]
  | none => .error (.unsupportedCondition f.operator)

def rangeFragment (f : Filter) : Except Error Fragment :=
  match f.value.bounds with
  | .ok (start, stop) =>
    .ok ⟨f.field.text, .document [("$gte", start), ("$lte", stop)]⟩
  | .error _ => .error (.invalidShape (.operand .range))

def listFragment (f : Filter) (key : String) : Except Error Fragment :=
  match f.value.items with
  | .ok items => .ok ⟨f.field.text, .document [(key, .array items)]⟩
  | .error _ => .error (.invalidShape (.operand .list))

def conditionsFragment (f : Filter) (encoding : ScalarEncoding) : Except Error Fragment :=
  match f.value.conditions with
  | .ok filters => do
    let branches ← filters.mapM fun c => c.branch encoding
    return ⟨"$or", .array (branches.map .document)⟩
  | .error _ => .error (.invalidShape (.operand .conditions))

def fragment (f : Filter) (encoding : ScalarEncoding) : Except Error Fragment :=
  match f.operator with
  | .between => f.rangeFragment
  | .anyOf => f.conditionsFragment encoding
  | .oneOf => f.listFragment "$in"
  | .noneOf => f.listFragment "$nin"
  | op =>
    match op.condition? f.value encoding with
    | some condition => .ok ⟨f.field.text, .document condition⟩
    | none => .error (.internal (.noHandler op))

end Filter

end DocQuery
