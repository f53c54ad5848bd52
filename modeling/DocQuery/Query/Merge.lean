import DocQuery.Log.Line
import DocQuery.Query.Fragment

/-!
Putting fragments together. Where the last write wins, a key that comes again replaces the condition,
which is logged at once and reported; a conjunction keeps all fragments.
-/
namespace DocQuery

structure Merged where
  predicate : Document
  /-- The keys that came again, once each time. -/
  overwritten : List String
  log : List Log.Line

namespace Merged

def empty : Merged := ⟨[], [], []⟩

def warning (key : String) : Log.Line :=
  ⟨.warn, "criteria_bson::converter::predicate",
   "predicate key '" ++ key ++ "' replaced by a later filter",
   ⟨"criteria_bson::converter::predicate", false, 84⟩⟩

def write (m : Merged) (f : Fragment) : Merged :=
  let predicate := m.predicate.insert f.key f.condition
  if m.predicate.contains f.key then
    ⟨predicate, m.overwritten ++ [f.key], m.log ++ [warning f.key]⟩
  else { m with predicate }

@[simp] theorem predicate_write (m : Merged) (f : Fragment) :
    (m.write f).predicate = m.predicate.insert f.key f.condition := by
  unfold write
  split <;> rfl

def lastWrites (fragments : List Fragment) : Merged := fragments.foldl write empty

def conjunction (fragments : List Fragment) : Merged :=
  match fragments with
  | [f] => ⟨f.document, [], []⟩
  | fs => ⟨[("$and", .array (fs.map fun f => .document f.document))], [], []⟩

def ofFragments (policy : MergePolicy) (fragments : List Fragment) : Merged :=
  match policy with
  | .lastWriteWins => lastWrites fragments
  | .conjunction => conjunction fragments

def ofFilters (c : Config) (filters : List Filter) : Except Error Merged := do
  let fragments ← filters.mapM fun f => f.fragment c.encoding
  return if fragments.isEmpty then empty else ofFragments c.merge fragments

end Merged

end DocQuery
