import DocQuery.Bson.Text
import DocQuery.Query.Compiled

/-!
Converting criteria to a query. A conversion that succeeds reports one event and logs what it did;
one that fails leaves no trace.
-/
namespace DocQuery

structure Event where
  filters : Nat
  predicateKeys : Nat
  merge : MergePolicy
  overwritten : List String
  skip : UInt64
  limit : UInt64
deriving DecidableEq

namespace Event

def json (e : Event) : Json :=
  .object
    [("filters", .int e.filters), ("predicate_keys", .int e.predicateKeys),
     ("merge", .string e.merge.word), ("overwritten", .array (e.overwritten.map .string)),
     ("skip", Json.word e.skip), ("limit", Json.word e.limit)]

def text (e : Event) : String := e.json.compact

end Event

structure Conversion where
  query : Query
  event : Event
  warnings : List Log.Line

namespace Conversion

def ofMerged (m : Merged) (c : Config) (criteria : Criteria) : Conversion :=
  let q := Query.ofMerged m c criteria
  { query := q
    event :=
      { filters := criteria.filters.length
        predicateKeys := q.predicate.length
        merge := c.merge
        overwritten := m.overwritten
        skip := q.skip
        limit := q.limit }
    warnings := m.log }

def summary (v : Conversion) : Log.Line :=
  ⟨.debug, "criteria_bson::converter",
   "compiled " ++ toString v.event.filters ++ " filter(s): predicate=" ++ v.query.predicate.logText
     ++ " sort=" ++ v.query.sort.logText ++ " skip=" ++ toString v.query.skip.toNat
     ++ " limit=" ++ toString v.query.limit.toNat,
   ⟨"criteria_bson::converter", true, 78⟩⟩

def traceTarget : String := "criteria_bson::trace"

def trace (v : Conversion) : Log.Line :=
  ⟨.trace, traceTarget, v.event.text, ⟨"criteria_bson::utils::trace", false, 61⟩⟩

def log (v : Conversion) : List Log.Line := v.warnings ++ [v.summary, v.trace]

end Conversion

namespace Criteria

/-- Without filters all documents are asked for. -/
def convert (criteria : Criteria) (c : Config) : Except Error Conversion := do
  let m ← if criteria.hasFilters then Merged.ofFilters c criteria.filters else .ok .empty
  return Conversion.ofMerged m c criteria

end Criteria

end DocQuery
