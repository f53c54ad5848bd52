import DocQuery.Proofs.Predicate.Patterns
import DocQuery.Proofs.Store.Path
import DocQuery.Store.Sorting
import Mathlib

/-!
What a path leads to. Up to thirty-three keys are looked up, each in the document found so far, and
what stands under the last one is what filters and sorts look at. A key of a predicate that starts
with a dollar sign is an operator and no path, so filters do not look along such a path.
-/
namespace DocQuery

namespace Value

def nested (keys : List String) (v : Value) : Value :=
  keys.foldr (fun key w => .document [(key, w)]) v

theorem leads_nested (keys : List String) (v : Value) : (nested keys v).Leads keys v := by
  induction keys with
  | nil => exact .here v
  | cons key keys ih =>
    have hget : Document.get? [(key, nested keys v)] key = some (nested keys v) := by
      simp [Document.get?]
    exact .into hget ih

end Value

namespace Document

open Predicate

/-- The path leads where the keys lead, unless they are too many. -/
structure LeadsAlong (d : Document) (path : String) (keys : List String) : Prop where
  leads : keys.length ≤ 33 → ∀ v, d.at? path = some v ↔ (Value.document d).Leads keys v
  stops : keys.length ≤ 33 → (d.at? path = none ↔ (Value.document d).Stops keys)
  tooLong : 33 < keys.length → d.at? path = none

def alone (v : Value) : Document := [("value", v)]

def aloneAt (d : Document) (path : String) : Document := (d.at? path).elim [] alone

/-- A document is looked at along a path as if it held nothing but this value. -/
structure SeenAs (d : Document) (path : String) (v : Value) : Prop where
  found : d.at? path = some v
  filters (condition : Document) : isDollar path = false →
    d.satisfies [(path, .document condition)]
      = (alone v).satisfies [("value", .document condition)]
  sorts (direction : Value) (sort e : Document) :
    compareBy ((path, direction) :: sort) d e
      = (compareBy [("value", direction)] (alone v) (e.aloneAt path)).then (compareBy sort d e)

variable {d : Document} {path : String} {keys : List String} {v : Value}

theorem at?_alone (v : Value) : (alone v).at? "value" = some v := by
  rw [at?_of_not_mem (by decide) (by decide), alone, get?, if_pos rfl]

theorem at?_aloneAt (d : Document) (path : String) : (d.aloneAt path).at? "value" = d.at? path := by
  unfold aloneAt
  cases d.at? path with
  | none => rw [Option.elim_none, at?_of_not_mem (by decide) (by decide), get?]
  | some v => exact at?_alone v

theorem leadsAlong (hne : path ≠ "") (h : Path.HasKeys path keys) (d : Document) :
    d.LeadsAlong path keys := by
  obtain rfl := Path.hasKeys_iff.mp h
  have hmax : Path.maxDepth + 1 = 33 := rfl
  refine ⟨fun hlength v => ?_, fun hlength => ?_, fun hlength => ?_⟩
  · rw [at?_eq_some_iff hne, hmax]
    exact and_iff_right hlength
  · rw [at?_eq_none_iff hne, hmax]
    exact or_iff_right (Nat.not_lt.mpr hlength)
  · rw [at?_eq_none_iff hne, hmax]
    exact .inl hlength

theorem seenAs (hfound : d.at? path = some v) : d.SeenAs path v where
  found := hfound
  filters condition hpath := by
    have hvalue : isDollar "value" = false := by simp [isDollar]
    rw [satisfies_condition, satisfies_condition, opened_eq_of_path hpath,
      opened_eq_of_path hvalue, hfound, at?_alone]
  sorts direction sort e := by
    have hsame : compareAt path direction d e
        = compareAt "value" direction (alone v) (e.aloneAt path) := by
      rw [compareAt, compareAt, hfound, at?_alone, at?_aloneAt]
    rw [compareBy, compareBy, compareBy, Ordering.then_eq, hsame]

/-- Splitting a path gives its keys, and the path leads where these lead, one after another; more
than thirty-three lead nowhere. What stands under fewer is found by the path that joins the keys. It
is what sorts on that path see, and filters too unless the path starts with a dollar sign. -/
theorem paths_lead_along_keys :
    (∀ path keys, Path.HasKeys path keys ↔ keys = Path.keys path)
      ∧ (∀ (d : Document) path keys, path ≠ "" → Path.HasKeys path keys → d.LeadsAlong path keys)
      ∧ ∀ path keys v, Path.HasKeys path keys → keys ≠ [""] → keys.length ≤ 33 →
        (∃ d, Value.nested keys v = .document d ∧ (Value.document d).Leads keys v)
          ∧ ∀ d : Document, (Value.document d).Leads keys v → d.SeenAs path v := by
  refine ⟨fun path keys => Path.hasKeys_iff, fun d path keys hne h => leadsAlong hne h d,
    fun path keys v h hkeys hlength => ⟨?_, fun d hleads => ?_⟩⟩
  · cases keys with
    | nil => exact absurd rfl h.nonempty
    | cons key keys => exact ⟨_, rfl, Value.leads_nested (key :: keys) v⟩
  · exact seenAs (((leadsAlong (h.ne_empty hkeys) h d).leads hlength v).mpr hleads)

def shelfCount : List String := ["shelf", "", "count"]

def sevenOnShelf : Document :=
  [("name", .string "Poetry"),
   ("shelf", .document [("", .document [("size", .int32 9), ("count", .int32 7)])])]

/-- A count is found past an empty key, a missing one is not, and thirty-four keys lead nowhere. -/
theorem paths_lead_along_keys_shelf :
    Path.HasKeys "shelf..count" shelfCount
      ∧ sevenOnShelf.SeenAs "shelf..count" (.int32 7)
      ∧ sevenOnShelf.at? "shelf..price" = none
      ∧ ∀ d : Document, d.at? (".".intercalate (List.replicate 34 "a")) = none := by
  obtain ⟨hsplit, halong, hseen⟩ := paths_lead_along_keys
  have hcount : Path.HasKeys "shelf..count" shelfCount := (hsplit _ _).mpr (by cbv)
  have hprice : Path.HasKeys "shelf..price" ["shelf", "", "price"] := (hsplit _ _).mpr (by cbv)
  have hlong : Path.HasKeys (".".intercalate (List.replicate 34 "a")) (List.replicate 34 "a") :=
    ⟨by simp, by simp, rfl⟩
  have hlead : (Value.document sevenOnShelf).Leads shelfCount (.int32 7) :=
    .into rfl (.into rfl (.into rfl (.here _)))
  have hstop : (Value.document sevenOnShelf).Stops ["shelf", "", "price"] :=
    .later rfl (.later rfl (.missing rfl))
  refine ⟨hcount, (hseen _ _ _ hcount (by decide) (by decide)).2 _ hlead, ?_, fun d => ?_⟩
  · exact ((halong _ _ _ (by decide) hprice).stops (by decide)).mpr hstop
  · exact (halong d _ _ (hlong.ne_empty (by simp)) hlong).tooLong (by simp)

def dollarPrice : Document := [("$price", .string "low")]

/-- A value under a key with a dollar sign is found by its path and not seen by a filter on it. -/
theorem dollarPrice_found_not_filtered :
    Path.HasKeys "$price" ["$price"] ∧ (Value.document dollarPrice).Leads ["$price"] (.string "low")
      ∧ dollarPrice.at? "$price" = some (.string "low")
      ∧ (alone (.string "low")).satisfies [("value", .document [("$eq", .string "low")])] = .ok true
      ∧ dollarPrice.satisfies [("$price", .document [("$eq", .string "low")])]
        = .error (.internal (.topLevelOperator "$price")) :=
  ⟨Path.hasKeys_iff.mpr (by cbv), .into rfl (.here _), by cbv, by cbv, by cbv⟩

end Document

end DocQuery
