import DocQuery.Proofs.Number.Rounding
import DocQuery.Proofs.Order.Agreement
import DocQuery.Proofs.Order.Documents
import Mathlib

/-!
Integers of either size are compared as floating-point numbers. Their order is never turned round,
and two of them are taken for one only where both have more than fifty-three binary digits.
-/
namespace DocQuery

open Binary64 (Precise ofInt)

variable {v w : Value} {a b : Int}

namespace Binary64

theorem Precise.symm (h : Precise a b) : Precise b a := Or.symm h

theorem compareTotal_ofInt_ne_gt (h : a < b) : (ofInt a).compareTotal (ofInt b) ≠ .gt := by
  rw [compareTotal, ne_eq, compare_gt_iff_gt, not_lt]
  exact orderKey_ofInt_mono h.le

/-- Where one of two integers is precise, the numbers compare as the integers do. -/
theorem compareTotal_ofInt (hp : a ≠ b → Precise a b) :
    (ofInt a).compareTotal (ofInt b) = Ord.compare a b := by
  unfold compareTotal
  rcases lt_trichotomy a b with h | rfl | h
  · rw [compare_lt_iff_lt.mpr h, compare_lt_iff_lt]
    exact orderKey_ofInt_lt h (hp h.ne)
  · rw [compare_eq_iff_eq.mpr (rfl : a = a), compare_eq_iff_eq]
  · rw [compare_gt_iff_gt.mpr h, compare_gt_iff_gt]
    exact orderKey_ofInt_lt h (hp h.ne').symm

theorem not_apartZeros_ofInt : ¬ (ofInt a).ApartZeros (ofInt b) := by
  rintro ⟨ha, hb, hne⟩
  rw [isZero_ofInt_iff] at ha hb
  rw [ha, hb] at hne
  exact hne rfl

end Binary64

namespace Value

def integer? : Value → Option Int
  | .int32 n => some n.toInt
  | .int64 n => some n.toInt
  | _ => none

theorem number?_of_integer? (h : v.integer? = some a) : v.number? = some (ofInt a) := by
  cases v with
  | int32 n | int64 n =>
    cases h
    rfl
  | _ => cases h

theorem isNaN_of_integer? (h : v.integer? = some a) : v.isNaN = false := by
  rw [← isNaN_of_number? (number?_of_integer? h)]
  exact Binary64.isNaN_ofInt a

theorem SameClass.integers (hv : v.integer? = some a) (hw : w.integer? = some b) : v.SameClass w :=
  .numbers (number?_of_integer? hv) (number?_of_integer? hw) (isNaN_of_integer? hv)
    (isNaN_of_integer? hw)

theorem compareInClass?_integers (hv : v.integer? = some a) (hw : w.integer? = some b) :
    v.compareInClass? w = some ((ofInt a).compareTotal (ofInt b)) := by
  simp [compareInClass?, number?_of_integer? hv, number?_of_integer? hw]

theorem compare_integers (hv : v.integer? = some a) (hw : w.integer? = some b) :
    v.compare w = (ofInt a).compareTotal (ofInt b) := by
  rw [compare, compareInClass?_integers hv hw, Option.getD_some]

theorem equal_integers (hv : v.integer? = some a) (hw : w.integer? = some b)
    (hp : a ≠ b → Precise a b) : v.equal w = decide (a = b) := by
  obtain ⟨o, ho, hequal, -⟩ := (SameClass.integers hv hw).compares
  have hapart : ¬ v.ApartZeros w := by
    simp [ApartZeros, number?_of_integer? hv, number?_of_integer? hw, Binary64.not_apartZeros_ofInt]
  rw [compareInClass?_integers hv hw, Binary64.compareTotal_ofInt hp] at ho
  cases ho
  rw [Bool.eq_iff_iff, hequal, decide_eq_true_iff, compare_eq_iff_eq]
  simp [hapart]

theorem equal_integers_self (hv : v.integer? = some a) (hw : w.integer? = some a) :
    v.equal w = true :=
  (equal_integers hv hw fun h => absurd rfl h).trans (decide_eq_true rfl)

end Value

namespace Document

open Predicate

section Operators

variable {d : Document} {path : String}

structure AnswersAs (d : Document) (path : String) (w : Value) (a b : Int) : Prop where
  equal : d.satisfies [(path, .document [("$eq", w)])] = .ok (decide (a = b))
  less : d.satisfies [(path, .document [("$lt", w)])] = .ok (decide (a < b))
  lessOrEqual : d.satisfies [(path, .document [("$lte", w)])] = .ok (decide (a ≤ b))
  greater : d.satisfies [(path, .document [("$gt", w)])] = .ok (decide (b < a))
  greaterOrEqual : d.satisfies [(path, .document [("$gte", w)])] = .ok (decide (b ≤ a))

theorem wanted_integers (a b : Int) :
    (Ord.compare a b).isLT = decide (a < b) ∧ (Ord.compare a b).isLE = decide (a ≤ b)
      ∧ (Ord.compare a b).isGT = decide (b < a) ∧ (Ord.compare a b).isGE = decide (b ≤ a) := by
  rcases lt_trichotomy a b with h | rfl | h
  · simp [compare_lt_iff_lt.mpr h, h, h.le]
  · simp
  · simp [compare_gt_iff_gt.mpr h, h, h.le]

theorem answersAs (hpath : isDollar path = false) (hd : d.at? path = some v)
    (hv : v.integer? = some a) (hw : w.integer? = some b) (hp : a ≠ b → Precise a b) :
    d.AnswersAs path w a b := by
  obtain ⟨hlt, hle, hgt, hge⟩ := wanted_integers a b
  have hclass : v.SameClass w := .integers hv hw
  have ho : v.compareInClass? w = some (Ord.compare a b) := by
    rw [Value.compareInClass?_integers hv hw, Binary64.compareTotal_ofInt hp]
  have hequal : v.equal w = decide (a = b) := Value.equal_integers hv hw hp
  constructor <;> rw [satisfies_comparison hd hpath hclass (by simp [comparisons])]
  · simp [operatorHolds, equals, hequal]
  · simp [operatorHolds, compares, ho, hlt]
  · simp [operatorHolds, compares, ho, hle]
  · simp [operatorHolds, compares, ho, hgt]
  · simp [operatorHolds, compares, ho, hge]

theorem itemPatterns_integers {items : List Value} (h : ∀ item ∈ items, item.integer?.isSome) :
    itemPatterns items = [] := by
  induction items with
  | nil => rfl
  | cons item rest ih =>
    obtain ⟨hitem, hrest⟩ := List.forall_mem_cons.mp h
    cases item with
    | int32 n | int64 n => simpa [itemPatterns] using ih hrest
    | _ => cases hitem

theorem satisfies_oneOf (hd : d.at? path = some v) (items : List Value) :
    d.satisfies [(path, .document [("$in", .array items)])]
      = opened path (patterns [("$in", .array items)]) >>= fun _ =>
        .ok (items.any fun item => v.equal item) := by
  rw [satisfies_condition, hd]
  congr
  funext _
  rw [conditionHolds_operator _ _ (by simp [isDollar]) (by simp)]
  simp [operatorHolds, isIn]

/-- How a document with the integer `a` is found in lists: by `a` itself, and by another integer
only beyond the precision. -/
structure FoundAs (d : Document) (path : String) (v : Value) (a : Int) : Prop where
  answers (items : List Value) : (∀ item ∈ items, item.integer?.isSome) →
    ∃ found, d.satisfies [(path, .document [("$in", .array items)])] = .ok found
  finds (items : List Value) (found : Bool) :
    d.satisfies [(path, .document [("$in", .array items)])] = .ok found →
    (∃ item ∈ items, item.integer? = some a) → found = true
  only (items : List Value) :
    d.satisfies [(path, .document [("$in", .array items)])] = .ok true →
    ∃ item ∈ items, v.equal item = true ∧ ∀ n, item.integer? = some n → n = a ∨ ¬ Precise a n

theorem foundAs (hpath : isDollar path = false) (hd : d.at? path = some v)
    (hv : v.integer? = some a) : d.FoundAs path v a := by
  refine ⟨fun items hitems => ?_, fun items found h hmem => ?_, fun items h => ?_⟩
  · have hpatterns : patterns [("$in", .array items)] = [] := by
      simp [patterns, patternsUnder, itemPatterns_integers hitems]
    rw [satisfies_oneOf hd, hpatterns, opened_path hpath]
    exact ⟨_, rfl⟩
  · obtain ⟨item, hmem, hitem⟩ := hmem
    rw [satisfies_oneOf hd] at h
    obtain ⟨_, -, hfound⟩ := bind_eq_ok_iff.mp h
    cases hfound
    exact List.any_eq_true.mpr ⟨item, hmem, Value.equal_integers_self hv hitem⟩
  · rw [satisfies_oneOf hd] at h
    obtain ⟨_, -, hfound⟩ := bind_eq_ok_iff.mp h
    obtain ⟨item, hmem, hequal⟩ := List.any_eq_true.mp (Except.ok.inj hfound)
    refine ⟨item, hmem, hequal, fun n hitem => ?_⟩
    by_contra hnot
    obtain ⟨hne, hp⟩ := not_or.mp hnot
    rw [Value.equal_integers hv hitem fun _ => not_not.mp hp, decide_eq_true_iff] at hequal
    exact hne hequal.symm

end Operators

section Sorting

variable {path : String} {direction : Value} {sort x y : Document}

/-- Two documents are sorted upwards: the first is never brought behind the second, and it stands
behind the second only where the order does not tell them apart. -/
structure StaysBefore (path : String) (direction : Value) (x y : Document) (apart : Prop) :
    Prop where
  kept (ds : List Document) : [x, y].Sublist ds → [x, y].Sublist (sorted [(path, direction)] ds)
  behind (ds : List Document) : [y, x].Sublist (sorted [(path, direction)] ds) → [y, x].Sublist ds
  first (sort : Document) (ds : List Document) :
    apart → ¬ [y, x].Sublist (sorted ((path, direction) :: sort) ds)

theorem compareAt_upwards (hup : direction.isDownwards = false) (hx : x.at? path = some v)
    (hy : y.at? path = some w) : compareAt path direction x y = v.compare w := by
  simp [compareAt, hup, hx, hy, Value.comparePresent]

theorem sublist_sorted (h : (compareBy sort x y).isLE) {ds : List Document}
    (hsub : [x, y].Sublist ds) : [x, y].Sublist (sorted sort ds) :=
  List.pair_sublist_mergeSort isLE_compareBy_trans isLE_compareBy_total h hsub

theorem isLE_of_sublist_sorted {ds : List Document} (hsub : [y, x].Sublist (sorted sort ds)) :
    (compareBy sort y x).isLE :=
  List.pairwise_iff_forall_sublist.mp (pairwise_sorted sort ds) hsub

theorem sublist_of_sublist_sorted (h : (compareBy sort x y).isLE) {ds : List Document}
    (hsub : [y, x].Sublist (sorted sort ds)) : [y, x].Sublist ds := by
  have hswap : compareBy sort x y = (compareBy sort y x).swap := Std.OrientedCmp.eq_swap
  have hback := isLE_of_sublist_sorted hsub
  have htie : compareBy sort y x = .eq := by
    rw [hswap] at h
    cases ho : compareBy sort y x <;> simp_all
  have hfiltered := hsub.filter (ties sort y)
  rw [filter_ties_sorted] at hfiltered
  have hself : compareBy sort y y = .eq := Std.ReflCmp.compare_self
  have hboth : [y, x].filter (ties sort y) = [y, x] := by simp [ties, htie, hself]
  rw [hboth] at hfiltered
  exact hfiltered.trans List.filter_sublist

theorem staysBefore (hup : direction.isDownwards = false) (hx : x.at? path = some v)
    (hy : y.at? path = some w) (hv : v.integer? = some a) (hw : w.integer? = some b) (h : a < b) :
    StaysBefore path direction x y (Precise a b) := by
  have hcompare : compareAt path direction x y = (ofInt a).compareTotal (ofInt b) := by
    rw [compareAt_upwards hup hx hy, Value.compare_integers hv hw]
  have hle : (compareBy [(path, direction)] x y).isLE := by
    have hne := Binary64.compareTotal_ofInt_ne_gt h
    rw [← hcompare] at hne
    simp only [compareBy, Ordering.then_eq]
    exact Ordering.isLE_iff_ne_gt.mpr hne
  refine ⟨fun ds => sublist_sorted hle, fun ds => sublist_of_sublist_sorted hle,
    fun sort ds hp hsub => ?_⟩
  have hless : compareAt path direction x y = .lt := by
    rw [hcompare, Binary64.compareTotal_ofInt fun _ => hp]
    exact compare_lt_iff_lt.mpr h
  have hgreater : compareAt path direction y x = .gt := by
    have hswap : compareAt path direction y x = (compareAt path direction x y).swap :=
      Std.OrientedCmp.eq_swap
    rw [hswap, hless]
    rfl
  have hback := isLE_of_sublist_sorted hsub
  simp [compareBy, hgreater] at hback

end Sorting

/-- Integers, in any mix of sizes, keep their order. The smaller is never after the greater; where
one of the two has no more than fifty-three binary digits they are told apart by the order, by
equality, by sorting and by every operator that compares. -/
theorem integers_keep_order (v w : Value) (a b : Int) (hv : v.integer? = some a)
    (hw : w.integer? = some b) :
    (a < b → v.compare w ≠ .gt)
      ∧ (a < b → Precise a b → v.compare w = .lt ∧ w.compare v = .gt ∧ v.equal w = false)
      ∧ (a < b → ∀ (path : String) (direction : Value) (x y : Document),
        direction.isDownwards = false → x.at? path = some v → y.at? path = some w →
        StaysBefore path direction x y (Precise a b))
      ∧ ∀ (d : Document) (path : String), isDollar path = false → d.at? path = some v →
        ((a ≠ b → Precise a b) → d.AnswersAs path w a b) ∧ d.FoundAs path v a := by
  refine ⟨fun h => ?_, fun h hp => ⟨?_, ?_, ?_⟩, fun h path direction x y hup hx hy => ?_,
    fun d path hpath hd => ⟨fun hp => ?_, ?_⟩⟩
  · rw [Value.compare_integers hv hw]
    exact Binary64.compareTotal_ofInt_ne_gt h
  · rw [Value.compare_integers hv hw, Binary64.compareTotal_ofInt fun _ => hp]
    exact compare_lt_iff_lt.mpr h
  · rw [Value.compare_integers hw hv, Binary64.compareTotal_ofInt fun _ => hp.symm]
    exact compare_gt_iff_gt.mpr h
  · rw [Value.equal_integers hv hw fun _ => hp]
    exact decide_eq_false h.ne
  · exact staysBefore hup hx hy hv hw h
  · exact answersAs hpath hd hv hw hp
  · exact foundAs hpath hd hv

def lastPrecise : Int64 := 9007199254740991

def copies (n : Int64) : Document := [("copies", .int64 n)]

/-- Below `2 ^ 53` an integer is less than the next one; at it the next one is the same. -/
theorem integers_keep_order_copies :
    Precise 9007199254740991 9007199254740992
      ∧ (Value.int64 lastPrecise).compare (.int64 (lastPrecise + 1)) = .lt
      ∧ (copies lastPrecise).AnswersAs "copies" (.int64 (lastPrecise + 1)) 9007199254740991
        9007199254740992
      ∧ (Value.int64 (lastPrecise + 1)).compare (.int64 (lastPrecise + 2)) = .eq := by
  have hless : (9007199254740991 : Int) < 9007199254740992 := by decide
  have hp : Precise 9007199254740991 9007199254740992 := by
    refine .inl ?_
    decide +kernel
  obtain ⟨-, happart, -, hanswers⟩ := integers_keep_order (.int64 lastPrecise)
    (.int64 (lastPrecise + 1)) 9007199254740991 9007199254740992 rfl rfl
  have hat : (copies lastPrecise).at? "copies" = some (.int64 lastPrecise) := by cbv
  have hpath : isDollar "copies" = false := by simp [isDollar]
  refine ⟨hp, (happart hless hp).1, (hanswers _ _ hpath hat).1 fun _ => hp, ?_⟩
  decide +kernel

end Document

end DocQuery
