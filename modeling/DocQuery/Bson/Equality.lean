import DocQuery.Bson.Value

/-!
Two equalities of values. Values are identical if they have the same type and content, the entries
of a document in any order. Values are equal if they are numbers of equal value, texts of equal
characters, or identical.
-/
namespace DocQuery.Value

def covers (a b : Document) : Bool := b.all fun e => a.contains e.1

mutual
def identical : Value → Value → Bool
  | .null, .null => true
  | .undefined, .undefined => true
  | .minKey, .minKey => true
  | .maxKey, .maxKey => true
  | .boolean a, .boolean b => a == b
  | .int32 a, .int32 b => a == b
  | .int64 a, .int64 b => a == b
  | .double a, .double b => a.equal b
  | .decimal a, .decimal b => a == b
  | .string a, .string b => a == b
  | .symbol a, .symbol b => a == b
  | .code a, .code b => a == b
  | .scopedCode a s, .scopedCode b t => a == b && identicalEntries [] s t && covers s t
  | .regex a s, .regex b t => a == b && s == t
  | .timestamp a s, .timestamp b t => a == b && s == t
  | .binary a s, .binary b t => a == b && s == t
  | .objectId a, .objectId b => a == b
  | .dbPointer a s, .dbPointer b t => a == b && s == t
  | .dateTime a, .dateTime b => a == b
  | .array a, .array b => identicalItems a b
  | .document a, .document b => identicalEntries [] a b && covers a b
  | _, _ => false

def identicalItems : List Value → List Value → Bool
  | [], [] => true
  | a :: as, b :: bs => identical a b && identicalItems as bs
  | _, _ => false

/-- Every entry that counts has an identical one in the other document; `seen` are the keys of the
entries before. -/
def identicalEntries (seen : List String) : List (String × Value) → Document → Bool
  | [], _ => true
  | (k, v) :: rest, d =>
    (seen.contains k || match d.get? k with
      | some w => identical v w
      | none => false)
    && identicalEntries (k :: seen) rest d
end

/-- Every numeric type maps to a floating-point number, so that all numbers share one order. -/
def number? : Value → Option Binary64
  | .int32 n => some (Binary64.ofInt n.toInt)
  | .int64 n => some (Binary64.ofInt n.toInt)
  | .double x => some x
  | .decimal d => some d.toBinary64
  | _ => none

def text? : Value → Option String
  | .string s | .symbol s => some s
  | _ => none

def equal (a b : Value) : Bool :=
  match a.number?, b.number? with
  | some x, some y => x.equal y
  | _, _ =>
    match a.text?, b.text? with
    | some s, some t => s == t
    | _, _ => identical a b

end DocQuery.Value

namespace DocQuery.Document

def identical (a b : Document) : Bool := Value.identical (.document a) (.document b)

end DocQuery.Document
