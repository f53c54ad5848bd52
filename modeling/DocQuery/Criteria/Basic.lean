import DocQuery.Criteria.Filter
import DocQuery.Criteria.Order
import DocQuery.Number.Word

/-!
Criteria: filters, an order, a limit and a page. Pages count from one.
-/
namespace DocQuery

def saturate (n : Nat) : UInt64 := UInt64.ofNat (min n Word.maxWord64)

structure Criteria where
  filters : List Filter
  order : Order
  limit : Option UInt64
  page : Option UInt64

namespace Criteria

def all : Criteria := ⟨[], .unordered, none, none⟩

def hasFilters (c : Criteria) : Bool := !c.filters.isEmpty

/-- How many results stand before the page. A page has a place only if it has a size. -/
def offset (c : Criteria) : Option UInt64 :=
  match c.page, c.limit with
  | some page, some limit => some (saturate ((page.toNat - 1) * limit.toNat))
  | _, _ => none

end Criteria

theorem toNat_saturate (n : Nat) : (saturate n).toNat = min n Word.maxWord64 := by
  have h : min n Word.maxWord64 < 2 ^ 64 := by unfold Word.maxWord64; omega
  simp only [saturate, UInt64.toNat_ofNat']
  exact Nat.mod_eq_of_lt h

end DocQuery
