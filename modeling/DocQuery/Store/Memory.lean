import DocQuery.Query.Compiled
import DocQuery.Store.Matcher
import DocQuery.Store.Sorting

/-!
A store of documents in memory, in the order of insertion, with the names of its indexes.
-/
namespace DocQuery

structure Store where
  name : String
  documents : List Document
  indexes : List String

namespace Store

def empty (name : String) : Store := ⟨name, [], []⟩

def idKey : String := "_id"

end Store

/-- Made identifiers grow, so that they are in the order of insertion. -/
structure IdSource where
  made : Nat

namespace IdSource

def initial : IdSource := ⟨0⟩

/-- Made identifiers start with the seconds of their time. -/
def base : Nat := 0x69000000 <<< 64

def id (n : Nat) : ObjectId := ⟨BitVec.ofNat 96 (base + n), n + 1⟩

def next (s : IdSource) : ObjectId × IdSource := (id s.made, ⟨s.made + 1⟩)

def index? (s : IdSource) (i : ObjectId) : Option Nat :=
  if 0 < i.serial && i.serial ≤ s.made then some (i.serial - 1) else none

end IdSource

namespace Store

/-- A document without an identifier gets one as its last entry. -/
def insert (s : Store) (ids : IdSource) (d : Document) : Store × IdSource × Value :=
  match d.get? idKey with
  | some id => ({ s with documents := s.documents ++ [d] }, ids, id)
  | none =>
    let (id, ids) := ids.next
    let d := Document.insert d idKey (.objectId id)
    ({ s with documents := s.documents ++ [d] }, ids, .objectId id)

def insertAll (s : Store) (ids : IdSource) : List Document → Store × IdSource × List Value
  | [] => (s, ids, [])
  | d :: rest =>
    let (s, ids, id) := s.insert ids d
    let (s, ids, more) := s.insertAll ids rest
    (s, ids, id :: more)

/-- The documents that pass a test, which ends at the first document that it fails on. -/
def select (test : Document → Except Error Bool) : List Document → Except Error (List Document)
  | [] => .ok []
  | d :: rest => do
    let passes ← test d
    let found ← select test rest
    return if passes then d :: found else found

def matching (s : Store) (predicate : Document) : Except Error (List Document) := do
  let m ← Matcher.ofPredicate predicate
  select m.holds s.documents

def window (q : Query) (ds : List Document) : List Document :=
  let rest := ds.drop q.skip.toNat
  if q.limit = 0 then rest else rest.take q.limit.toNat

def find (s : Store) (q : Query) : Except Error (List Document) := do
  let found ← s.matching q.predicate
  return window q (if q.sort.isEmpty then found else Document.sorted q.sort found)

def tally (test : Document → Except Error Bool) (n : UInt64) : List Document → Except Error UInt64
  | [] => .ok n
  | d :: rest => do
    let passes ← test d
    tally test (if passes then n + 1 else n) rest

def count (s : Store) (predicate : Document) : Except Error UInt64 := do
  let m ← Matcher.ofPredicate predicate
  tally m.holds 0 s.documents

def createIndex (s : Store) (field : String) : Store :=
  if s.indexes.contains field then s else { s with indexes := s.indexes ++ [field] }

end Store

end DocQuery
