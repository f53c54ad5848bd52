import DocQuery.Bson.Value
import DocQuery.Text.Split

/-!
Paths: keys with dots between them, which lead into documents inside documents.
-/
namespace DocQuery

namespace Path

def keys (path : String) : List String := Text.split '.' path

/-- How many keys are followed after the first. -/
def maxDepth : Nat := 32

end Path

namespace Value

def under? : Value → String → Option Value
  | .document d, key => Document.get? d key
  | _, _ => none

/-- Goes on along the keys of a path. The depth says how many were followed after the first. -/
def follow? : Value → Nat → List String → Option Value
  | v, _, [] => some v
  | v, depth, key :: rest =>
    if Path.maxDepth ≤ depth then none
    else (v.under? key).bind fun w => w.follow? (depth + 1) rest

end Value

namespace Document

/-- The value at a path. The empty path leads nowhere. -/
def at? (d : Document) (path : String) : Option Value :=
  if path = "" then none
  else
    match Path.keys path with
    | [] => none
    | key :: rest => (d.get? key).bind fun v => v.follow? 0 rest

end Document

end DocQuery
