import DocQuery.Proofs.Bson.Equivalence
import DocQuery.Proofs.Filter.Meaning
import Mathlib

/-!
Equality beside the order. Inside a class of values the operators that compare agree with each
other: one of less, equal and greater holds, and the two weak ones are what their names say. There
is one exception, the zeros of different sign, which are equal and yet one before the other.
-/
namespace DocQuery

namespace Binary64

variable {x y : Binary64}

theorem toNat_bits (x : Binary64) :
    x.bits.toNat = (if x.negative then signWeight else 0) + x.magnitude := by
  have hlt : x.bits.toNat < 2 * signWeight := x.bits.toNat_lt
  unfold negative magnitude
  by_cases h : signWeight ≤ x.bits.toNat
  · have hmod : x.bits.toNat % signWeight = x.bits.toNat - signWeight := by
      rw [Nat.mod_eq_sub_mod h, Nat.mod_eq_of_lt (by omega)]
    simp only [h, decide_true, if_true, hmod]
    omega
  · simp [h, Nat.mod_eq_of_lt (Nat.lt_of_not_le h)]

theorem orderKey_inj : x.orderKey = y.orderKey ↔ x = y := by
  constructor
  · intro h
    have hx := toNat_bits x
    have hy := toNat_bits y
    have hbits : x.bits.toNat = y.bits.toNat := by
      unfold orderKey at h
      cases hnx : x.negative <;> cases hny : y.negative <;>
        simp only [hnx, hny, Bool.false_eq_true, if_false, if_true] at h hx hy <;> omega
    cases x
    cases y
    simpa using UInt64.toNat_inj.mp hbits
  · rintro rfl
    rfl

theorem compareTotal_eq_iff : x.compareTotal y = .eq ↔ x = y := by
  rw [compareTotal, compare_eq_iff_eq, orderKey_inj]

def ApartZeros (x y : Binary64) : Prop := x.isZero = true ∧ y.isZero = true ∧ x ≠ y

theorem equal_iff (hx : x.isNaN = false) (hy : y.isNaN = false) :
    x.equal y = true ↔ x = y ∨ x.ApartZeros y := by
  unfold equal ApartZeros
  by_cases h : x = y <;> simp [hx, hy, h]

end Binary64

namespace Value

variable {v a : Value}

/-- Values that have an order between them, NaN apart. -/
inductive SameClass : Value → Value → Prop where
  | numbers {v a : Value} {x y : Binary64} (hv : v.number? = some x) (ha : a.number? = some y)
    (hvn : v.isNaN = false) (han : a.isNaN = false) : SameClass v a
  | texts {v a : Value} {s t : String} (hv : v.text? = some s) (ha : a.text? = some t) :
    SameClass v a
  | booleans (b c : Bool) : SameClass (.boolean b) (.boolean c)
  | dateTimes (t u : Instant) : SameClass (.dateTime t) (.dateTime u)
  | objectIds (i j : ObjectId) : SameClass (.objectId i) (.objectId j)

def ApartZeros (v a : Value) : Prop := ∃ x ∈ v.number?, ∃ y ∈ a.number?, x.ApartZeros y

theorem not_apartZeros (h : v.number? = none) : ¬ v.ApartZeros a := by
  rintro ⟨x, hx, -⟩
  rw [h] at hx
  cases hx

theorem objectId_compare_eq_iff (i j : ObjectId) : i.compare j = .eq ↔ i = j := by
  cases i
  cases j
  simp [ObjectId.compare, Ordering.then_eq_eq, BitVec.toNat_inj]

theorem dateTime_compare_eq_iff (t u : Instant) :
    Ord.compare t.millis.toInt u.millis.toInt = .eq ↔ t = u := by
  cases t
  cases u
  simp [Int64.toInt_inj]

/-- Values of a class compare, and they are equal when they tie or are zeros of different sign. -/
theorem SameClass.compares (h : v.SameClass a) :
    ∃ o, v.compareInClass? a = some o ∧ (v.equal a = true ↔ o = .eq ∨ v.ApartZeros a)
      ∧ (v.ApartZeros a → o ≠ .eq) := by
  cases h with
  | @numbers _ _ x y hv ha hvn han =>
    have hx : x.isNaN = false := (isNaN_of_number? hv).trans hvn
    have hy : y.isNaN = false := (isNaN_of_number? ha).trans han
    have hzeros : v.ApartZeros a ↔ x.ApartZeros y := by simp [ApartZeros, hv, ha]
    refine ⟨x.compareTotal y, by simp [compareInClass?, hv, ha], ?_, fun hz => ?_⟩
    · rw [hzeros, Binary64.compareTotal_eq_iff, ← Binary64.equal_iff hx hy]
      simp [equal, hv, ha]
    · rw [ne_eq, Binary64.compareTotal_eq_iff]
      exact (hzeros.mp hz).2.2
  | @texts _ _ s t hv ha =>
    have hn : v.number? = none := number?_eq_none_of_text? hv
    have hz : ¬ v.ApartZeros a := not_apartZeros hn
    refine ⟨Ord.compare s t, by simp [compareInClass?, hn, hv, ha], ?_, fun h => absurd h hz⟩
    simp [equal, hn, hv, ha, hz]
  | booleans b c =>
    have hz : ¬ (Value.boolean b).ApartZeros (.boolean c) := not_apartZeros rfl
    refine ⟨Ord.compare b c, rfl, ?_, fun h => absurd h hz⟩
    simp [equal, number?, text?, identical, hz]
  | dateTimes t u =>
    have hz : ¬ (Value.dateTime t).ApartZeros (.dateTime u) := not_apartZeros rfl
    refine ⟨_, rfl, ?_, fun h => absurd h hz⟩
    rw [dateTime_compare_eq_iff]
    simp [equal, number?, text?, identical, hz]
  | objectIds i j =>
    have hz : ¬ (Value.objectId i).ApartZeros (.objectId j) := not_apartZeros rfl
    refine ⟨_, rfl, ?_, fun h => absurd h hz⟩
    rw [objectId_compare_eq_iff]
    simp [equal, number?, text?, identical, hz]

/-- An argument of a class has no pattern in it. -/
theorem SameClass.patternsUnder_eq_nil (h : v.SameClass a) {op : String} (hop : op ≠ "$regex") :
    Predicate.patternsUnder op a = [] := by
  cases h with
  | numbers hv ha =>
    cases a with
    | int32 n | int64 n | double x | decimal d => rfl
    | _ => cases ha
  | texts hv ha =>
    cases a with
    | string s => simp [Predicate.patternsUnder, hop]
    | symbol s => rfl
    | _ => cases ha
  | booleans | dateTimes | objectIds => rfl

end Value

namespace Document

open Predicate

/-- The condition with this one operator, at this path, is true of the document. -/
def Asked (d : Document) (path : String) (a : Value) (op : String) : Prop :=
  d.satisfies [(path, .document [(op, a)])] = .ok true

def comparisons : List String := ["$eq", "$gt", "$gte", "$lt", "$lte"]

variable {d : Document} {path op : String} {v a : Value}

theorem satisfies_comparison (hv : d.at? path = some v) (hpath : isDollar path = false)
    (h : v.SameClass a) (hop : op ∈ comparisons) :
    d.satisfies [(path, .document [(op, a)])] = operatorHolds onDemand (some v) op a := by
  have hne : op ≠ "$regex" ∧ op ≠ "$not" ∧ isDollar op = true := by
    simp only [comparisons, List.mem_cons, List.not_mem_nil, or_false] at hop
    rcases hop with rfl | rfl | rfl | rfl | rfl <;> simp [isDollar]
  obtain ⟨hregex, hnot, hdollar⟩ := hne
  have hpatterns : patterns [(path, .document [(op, a)])] = [] := by
    simp [patterns, patternsUnder, h.patternsUnder_eq_nil hregex]
  obtain ⟨m, hm⟩ := Matcher.exists_ofPredicate_iff.mpr (hpatterns ▸ List.forall_mem_nil Readable)
  rw [satisfies, hm]
  change m.holds d = _
  rw [Matcher.holds_eq_onDemand hm, entriesHold_path d hpath, hv,
    conditionHolds_operator _ _ hdollar hnot]

theorem exists_satisfies_comparison (hv : d.at? path = some v) (hpath : isDollar path = false)
    (h : v.SameClass a) (hop : op ∈ comparisons) :
    ∃ b, d.satisfies [(path, .document [(op, a)])] = .ok b := by
  rw [satisfies_comparison hv hpath h hop]
  simp only [comparisons, List.mem_cons, List.not_mem_nil, or_false] at hop
  rcases hop with rfl | rfl | rfl | rfl | rfl <;> exact ⟨_, rfl⟩

theorem asked_equal_iff (hv : d.at? path = some v) (hpath : isDollar path = false)
    (h : v.SameClass a) : d.Asked path a "$eq" ↔ v.equal a = true := by
  rw [Asked, satisfies_comparison hv hpath h (by simp [comparisons])]
  simp [operatorHolds, equals]

theorem asked_range_iff (hv : d.at? path = some v) (hpath : isDollar path = false)
    (h : v.SameClass a) {o : Ordering} (ho : v.compareInClass? a = some o) :
    (d.Asked path a "$lt" ↔ o = .lt) ∧ (d.Asked path a "$gt" ↔ o = .gt)
      ∧ (d.Asked path a "$lte" ↔ o ≠ .gt) ∧ (d.Asked path a "$gte" ↔ o ≠ .lt) := by
  have hask (op : String) (hop : op ∈ comparisons) :
      d.Asked path a op ↔ operatorHolds onDemand (some v) op a = .ok true := by
    rw [Asked, satisfies_comparison hv hpath h hop]
  rw [hask "$lt" (by simp [comparisons]), hask "$gt" (by simp [comparisons]),
    hask "$lte" (by simp [comparisons]), hask "$gte" (by simp [comparisons])]
  cases o <;> simp [operatorHolds, Predicate.compares, ho]

def ExactlyOne (p q r : Prop) : Prop := (p ∨ q ∨ r) ∧ ¬ (p ∧ q) ∧ ¬ (p ∧ r) ∧ ¬ (q ∧ r)

/-- What is asked with less, equal and greater goes together, also with the weak forms. -/
structure Agree (asked : String → Prop) : Prop where
  one : ExactlyOne (asked "$lt") (asked "$eq") (asked "$gt")
  greaterOrEqual : asked "$gte" ↔ asked "$gt" ∨ asked "$eq"
  lessOrEqual : asked "$lte" ↔ asked "$lt" ∨ asked "$eq"

/-- A value that is there and an argument of its class can be asked about with every operator that
compares. The answers agree but for zeros of different sign: these are equal, and the orders go by
the signs alone. -/
theorem comparisons_agree_iff (d : Document) (path : String) (v a : Value)
    (hv : d.at? path = some v) (hpath : isDollar path = false) (h : v.SameClass a) :
    (∀ op ∈ comparisons, ∃ b, d.satisfies [(path, .document [(op, a)])] = .ok b)
      ∧ (Agree (d.Asked path a) ↔ ¬ v.ApartZeros a)
      ∧ (v.ApartZeros a → d.Asked path a "$eq"
        ∧ (d.Asked path a "$lt" ↔ ¬ d.Asked path a "$gt")
        ∧ (d.Asked path a "$lte" ↔ d.Asked path a "$lt")
        ∧ (d.Asked path a "$gte" ↔ d.Asked path a "$gt")) := by
  obtain ⟨o, ho, hequal, hapart⟩ := h.compares
  obtain ⟨hlt, hgt, hle, hge⟩ := asked_range_iff hv hpath h ho
  have heq := (asked_equal_iff hv hpath h).trans hequal
  refine ⟨fun op hop => exists_satisfies_comparison hv hpath h hop,
    ⟨fun hagree hz => ?_, fun hz => ?_⟩, fun hz => ?_⟩
  · -- equal zeros are also less or greater
    have hone := hagree.one
    rw [ExactlyOne, hlt, heq, hgt] at hone
    have ho' := hapart hz
    cases o <;> simp_all
  · constructor
    · rw [ExactlyOne, hlt, heq, hgt]
      cases o <;> simp [hz]
    · rw [hge, hgt, heq]
      cases o <;> simp [hz]
    · rw [hle, hlt, heq]
      cases o <;> simp [hz]
  · have ho' := hapart hz
    rw [heq, hlt, hgt, hle, hge]
    cases o <;> simp_all

def countPast : Document := [("shelf", .document [("count", .int64 9007199254740993)])]

def precision : Value := .double ⟨0x4340000000000000⟩

/-- An integer beyond the precision of a double is equal to its neighbour, and neither less nor
greater. -/
theorem comparisons_agree_iff_countPast :
    countPast.at? "shelf.count" = some (.int64 9007199254740993)
      ∧ (Value.int64 9007199254740993).SameClass precision
      ∧ Agree (countPast.Asked "shelf.count" precision)
      ∧ countPast.Asked "shelf.count" precision "$eq" := by
  have hv : countPast.at? "shelf.count" = some (.int64 9007199254740993) := by cbv
  have hpath : isDollar "shelf.count" = false := by simp [isDollar]
  have hclass : (Value.int64 9007199254740993).SameClass precision :=
    .numbers rfl rfl rfl (by decide +kernel)
  have hz : ¬ (Value.int64 9007199254740993).ApartZeros precision := by
    rintro ⟨x, -, y, hy, -, hzero, -⟩
    have hnot : (Binary64.mk 0x4340000000000000).isZero = false := by decide +kernel
    cases hy
    rw [hnot] at hzero
    cases hzero
  have hequal : (Value.int64 9007199254740993).equal precision = true := by decide +kernel
  obtain ⟨-, hagree, -⟩ := comparisons_agree_iff countPast "shelf.count" _ _ hv hpath hclass
  exact ⟨hv, hclass, hagree.mpr hz, (asked_equal_iff hv hpath hclass).mpr hequal⟩

def minusZero : Value := .double (Binary64.zero true)

def plusZero : Value := .double (Binary64.zero false)

/-- Minus zero is equal to zero and also less, and so not at least zero. -/
theorem minusZero_equal_and_less :
    minusZero.SameClass plusZero ∧ Asked [("a", minusZero)] "a" plusZero "$eq"
      ∧ Asked [("a", minusZero)] "a" plusZero "$lt" ∧ ¬ Asked [("a", minusZero)] "a" plusZero "$gte"
      ∧ ¬ Agree (Asked [("a", minusZero)] "a" plusZero) := by
  have hequal : Asked [("a", minusZero)] "a" plusZero "$eq" := by cbv
  have hless : Asked [("a", minusZero)] "a" plusZero "$lt" := by cbv
  have hnot : Document.satisfies [("a", minusZero)] [("a", .document [("$gte", plusZero)])]
      = .ok false := by cbv
  refine ⟨.numbers rfl rfl (by decide +kernel) (by decide +kernel), hequal, hless, ?_, fun h => ?_⟩
  · rw [Asked, hnot]
    simp
  · obtain ⟨-, hboth, -⟩ := h.one
    exact hboth ⟨hless, hequal⟩

end Document

end DocQuery
