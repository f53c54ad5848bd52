import DocQuery.Query.Conversion

/-!
Pages of results.
-/
namespace DocQuery

structure Page where
  items : List Document
  total : UInt64
  page : Option UInt64
  next : Option UInt64

namespace Page

/-- There is a next page if the pages so far do not cover the total. -/
def nextPage (page limit : Option UInt64) (total : UInt64) : Option UInt64 :=
  match page, limit with
  | some p, some l =>
    if saturate (p.toNat * l.toNat) < total then some (saturate (p.toNat + 1)) else none
  | _, _ => none

def json (p : Page) : Json :=
  .object
    [("items", .array (p.items.map Document.embedded)), ("total", Json.word p.total),
     ("current_page", Json.ofOption Json.word p.page),
     ("next_page", Json.ofOption Json.word p.next)]

def text (p : Page) : String := p.json.compact

end Page

end DocQuery
