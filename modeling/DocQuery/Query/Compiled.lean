import DocQuery.Bson.Embedded
import DocQuery.Criteria.Request
import DocQuery.Query.Merge

/-!
Compiled queries: what a document store is asked for. A skip of zero skips nothing and a limit of
zero is none.
-/
namespace DocQuery

structure Query where
  predicate : Document
  sort : Document
  skip : UInt64
  limit : UInt64

namespace Order

/-- Without an order the native identifier decides. The identifier has another name in the store. -/
def sort (o : Order) (c : Config) : Document :=
  match o with
  | .by key direction =>
    let field := if key.text = c.identifier then c.nativeIdentifier else key.text
    [(field, .int32 direction.sign)]
  | .unordered => [(c.nativeIdentifier, .int32 c.defaultSort.sign)]

end Order

namespace Query

def ofMerged (m : Merged) (c : Config) (criteria : Criteria) : Query :=
  { predicate := m.predicate
    sort := criteria.order.sort c
    skip := criteria.offset.getD 0
    limit := criteria.limit.getD 0 }

def relaxed (q : Query) : Json :=
  .object
    [("limit", Json.word q.limit), ("predicate", q.predicate.relaxed),
     ("skip", Json.word q.skip), ("sort", q.sort.relaxed)]

def json (q : Query) : Json :=
  .object
    [("predicate", q.predicate.embedded), ("sort", q.sort.embedded),
     ("skip", Json.word q.skip), ("limit", Json.word q.limit)]

def names : List String := ["predicate", "sort", "skip", "limit"]

def document? (s : Json.Syntax) : Option Document :=
  if s.nestsWithin (Json.maxDepth - 1) then Document.ofSyntax? s else none

def ofSyntax? (s : Json.Syntax) : Option Query := do
  let [some predicate, some sort, some skip, some limit] ← s.fields? names | none
  return {
    predicate := ← document? predicate
    sort := ← document? sort
    skip := ← skip.word?
    limit := ← limit.word? }

def read (text : String) : Except Error Query :=
  match (Json.Syntax.read? text).bind ofSyntax? with
  | some q => .ok q
  | none => .error .json

end Query

end DocQuery
