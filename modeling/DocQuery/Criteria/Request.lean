import DocQuery.Criteria.Basic
import DocQuery.Json.Record
import DocQuery.Json.Printer

/-!
Requests: criteria as they come in, in JSON. Their filters and their order are checked only when
they become criteria.
-/
namespace DocQuery

structure Request where
  filters : List Json
  orderBy : Option String
  orderType : Option String
  limit : Option UInt64
  page : Option UInt64

def Json.word (n : UInt64) : Json := .int n.toNat

def Json.ofOption {α : Type} (write : α → Json) : Option α → Json
  | none => .null
  | some a => write a

namespace Request

/-- A request is a container and so is its list of filters. -/
def filterDepth : Nat := Json.maxDepth - 2

def filters? : Json.Syntax → Option (List Json)
  | .array items => Json.Syntax.itemValues? filterDepth items
  | _ => none

def names : List String := ["filters", "orderBy", "orderType", "limit", "page"]

def ofSyntax? (s : Json.Syntax) : Option Request := do
  let [filters, orderBy, orderType, limit, page] ← s.fields? names | none
  return {
    filters := ← Json.Syntax.orDefault? [] filters? filters
    orderBy := ← Json.Syntax.orDefault? none (Json.Syntax.optional? Json.Syntax.string?) orderBy
    orderType := ← Json.Syntax.orDefault? none (Json.Syntax.optional? Json.Syntax.string?) orderType
    limit := ← Json.Syntax.orDefault? none (Json.Syntax.optional? Json.Syntax.word?) limit
    page := ← Json.Syntax.orDefault? none (Json.Syntax.optional? Json.Syntax.word?) page }

def read (text : String) : Except Error Request :=
  match (Json.Syntax.read? text).bind ofSyntax? with
  | some r => .ok r
  | none => .error .json

def json (r : Request) : Json :=
  .object
    [("filters", .array r.filters), ("orderBy", Json.ofOption .string r.orderBy),
     ("orderType", Json.ofOption .string r.orderType), ("limit", Json.ofOption Json.word r.limit),
     ("page", Json.ofOption Json.word r.page)]

/-- The filters are checked before the order. -/
def criteria (r : Request) : Except Error Criteria := do
  let filters ← r.filters.mapM Filter.ofJson
  let order ← Order.ofTexts r.orderBy r.orderType
  return ⟨filters, order, r.limit, r.page⟩

end Request

namespace Criteria

def read (text : String) : Except Error Criteria := do
  (← Request.read text).criteria

/-- Criteria from documents and texts. The order is checked before the filters. -/
def ofParts (filters : List Document) (orderBy orderType : Option String)
    (limit page : Option UInt64) : Except Error Criteria := do
  let order ← Order.ofTexts orderBy orderType
  let filters ← filters.mapM Filter.ofDocument
  return ⟨filters, order, limit, page⟩

end Criteria

end DocQuery
