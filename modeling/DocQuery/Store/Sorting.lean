import DocQuery.Bson.Order
import DocQuery.Store.Path

/-!
The order of documents by a sort document, whose keys are paths, the first deciding first. A
direction below zero is downwards. Documents without a value come before those with one.
-/
namespace DocQuery

namespace Value

def comparePresent : Option Value → Option Value → Ordering
  | some x, some y => x.compare y
  | some _, none => .gt
  | none, some _ => .lt
  | none, none => .eq

def isDownwards (direction : Value) : Bool := direction.number?.any Binary64.belowZero

end Value

namespace Document

def compareAt (path : String) (direction : Value) (a b : Document) : Ordering :=
  let o := Value.comparePresent (a.at? path) (b.at? path)
  if direction.isDownwards then o.swap else o

def compareBy : (sort : Document) → (a b : Document) → Ordering
  | [], _, _ => .eq
  | (path, direction) :: rest, a, b =>
    (compareAt path direction a b).then (compareBy rest a b)

/-- Sorts by a sort document; documents that it does not tell apart keep their order. -/
def sorted (sort : Document) (ds : List Document) : List Document :=
  ds.mergeSort fun a b => (compareBy sort a b).isLE

end Document

end DocQuery
