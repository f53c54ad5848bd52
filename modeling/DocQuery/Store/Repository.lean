import DocQuery.Store.Memory
import DocQuery.Store.Page

/-!
Repositories: a store with a configuration and a list of indexes, which are created once for all
repositories that share a registry and a collection name.
-/
namespace DocQuery

/-- The names whose indexes are complete. -/
abbrev Registry := List String

/-- Whether the store refuses the index on a field, asked for at a place of the list of indexes. -/
abbrev Refusal := Nat → String → Bool

structure Repository where
  config : Config
  indexFields : List String
  store : Store

namespace Store

structure IndexRun where
  store : Store
  log : List Log.Line
  result : Except Error Unit

def created (s : Store) (field : String) : Log.Line :=
  ⟨.info, "criteria_bson::repository", "created index on " ++ s.name ++ "." ++ field,
   ⟨"criteria_bson::repository", true, 92⟩⟩

def createIndexes (refuses : Refusal) (s : Store) (place : Nat) : List String → IndexRun
  | [] => ⟨s, [], .ok ()⟩
  | field :: rest =>
    if refuses place field then ⟨s, [], .error (.internal (.indexRefused field))⟩
    else
      let run := (s.createIndex field).createIndexes refuses (place + 1) rest
      { run with log := s.created field :: run.log }

end Store

namespace Registry

/-- Does something unless it is done already. If it fails it is not done. The result says whether it
was done now. -/
def ensureOnce (r : Registry) (key : String) (result : Except Error Unit) :
    Registry × Except Error Bool :=
  if r.contains key then (r, .ok false)
  else
    match result with
    | .ok () => (key :: r, .ok true)
    | .error e => (r, .error e)

end Registry

namespace Repository

structure Ensured where
  repository : Repository
  registry : Registry
  log : List Log.Line
  result : Except Error Bool

def ensureIndexes (r : Repository) (registry : Registry) (refuses : Refusal) : Ensured :=
  if registry.contains r.store.name then ⟨r, registry, [], .ok false⟩
  else
    let run := r.store.createIndexes refuses 0 r.indexFields
    let (registry, result) := registry.ensureOnce r.store.name run.result
    ⟨{ r with store := run.store }, registry, run.log, result⟩

def page (r : Repository) (criteria : Criteria) (q : Query) : Except Error Page := do
  let found ← r.store.find q
  let total ← r.store.count q.predicate
  return {
    items := found.map fun d => Document.erase d r.config.nativeIdentifier
    total := total
    page := criteria.page
    next := Page.nextPage criteria.page criteria.limit total }

/-- What a search came to. The conversion is there if it succeeded, also if the search then
failed. -/
structure Searched where
  repository : Repository
  registry : Registry
  log : List Log.Line
  conversion : Option Conversion
  result : Except Error Page

def search (r : Repository) (registry : Registry) (refuses : Refusal) (criteria : Criteria) :
    Searched :=
  let e := r.ensureIndexes registry refuses
  match e.result with
  | .error error => ⟨e.repository, e.registry, e.log, none, .error error⟩
  | .ok _ =>
    match criteria.convert r.config with
    | .error error => ⟨e.repository, e.registry, e.log, none, .error error⟩
    | .ok v =>
      ⟨e.repository, e.registry, e.log ++ v.log, some v, e.repository.page criteria v.query⟩

structure Counted where
  log : List Log.Line
  result : Except Error UInt64

/-- Only the filters count. What was logged for them stays if the store then fails. -/
def count (r : Repository) (criteria : Criteria) : Counted :=
  match Merged.ofFilters r.config criteria.filters with
  | .error e => ⟨[], .error e⟩
  | .ok m => ⟨m.log, r.store.count m.predicate⟩

end Repository

end DocQuery
