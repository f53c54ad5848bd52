import DocQuery.Bson.Equality

/-!
The order of values. Inside a class (numbers, texts, booleans, dates, object ids) values compare by
content; across classes, and where a class has no order, the rank of the type decides.
-/
namespace DocQuery.Value

/-- Range conditions hold only inside a class, so there is no answer across classes. -/
def compareInClass? (a b : Value) : Option Ordering :=
  match a.number?, b.number? with
  | some x, some y => some (x.compareTotal y)
  | _, _ =>
    match a.text?, b.text? with
    | some s, some t => some (Ord.compare s t)
    | _, _ =>
      match a, b with
      | .boolean x, .boolean y => some (Ord.compare x y)
      | .dateTime x, .dateTime y => some (Ord.compare x.millis.toInt y.millis.toInt)
      | .objectId x, .objectId y => some (x.compare y)
      | _, _ => none

def rank : Value → Nat
  | .minKey => 0
  | .null | .undefined => 1
  | .int32 _ | .int64 _ | .double _ | .decimal _ => 2
  | .string _ | .symbol _ => 3
  | .document _ => 4
  | .array _ => 5
  | .binary .. => 6
  | .objectId _ => 7
  | .boolean _ => 8
  | .dateTime _ => 9
  | .timestamp .. => 10
  | .regex .. => 11
  | .code _ | .scopedCode .. | .dbPointer .. => 12
  | .maxKey => 13

def compare (a b : Value) : Ordering :=
  (a.compareInClass? b).getD (Ord.compare a.rank b.rank)

end DocQuery.Value
