import DocQuery.Bson.Order

/-!
The order of values is a total preorder. Every value has a row of keys, of which the rank comes
first, and two values compare as their rows do.
-/
namespace DocQuery.Value

def numberKey (v : Value) : Int := (v.number?.map Binary64.orderKey).getD 0

def textKey (v : Value) : String := v.text?.getD ""

def contentKey : Value → Int
  | .boolean b => if b then 1 else 0
  | .dateTime t => t.millis.toInt
  | .objectId id => id.value.toNat
  | _ => 0

def serialKey : Value → Nat
  | .objectId id => id.serial
  | _ => 0

def compareKeys : Value → Value → Ordering :=
  compareLex (compareOn rank)
    (compareLex (compareOn numberKey)
      (compareLex (compareOn textKey) (compareLex (compareOn contentKey) (compareOn serialKey))))

theorem rank_eq_number_iff (v : Value) : v.rank = 2 ↔ ∃ x, v.number? = some x := by
  cases v <;> simp [number?, rank]

theorem rank_eq_text_iff (v : Value) : v.rank = 3 ↔ ∃ s, v.text? = some s := by
  cases v <;> simp [text?, rank]

theorem rank_eq_objectId_iff (v : Value) : v.rank = 7 ↔ ∃ id, v = .objectId id := by
  cases v <;> simp [rank]

theorem rank_eq_boolean_iff (v : Value) : v.rank = 8 ↔ ∃ b, v = .boolean b := by
  cases v <;> simp [rank]

theorem rank_eq_dateTime_iff (v : Value) : v.rank = 9 ↔ ∃ t, v = .dateTime t := by
  cases v <;> simp [rank]

theorem numberKey_of_rank_ne {v : Value} (h : v.rank ≠ 2) : v.numberKey = 0 := by
  cases hn : v.number? with
  | none => simp [numberKey, hn]
  | some x => exact absurd ((rank_eq_number_iff v).mpr ⟨x, hn⟩) h

theorem textKey_of_rank_ne {v : Value} (h : v.rank ≠ 3) : v.textKey = "" := by
  cases ht : v.text? with
  | none => simp [textKey, ht]
  | some s => exact absurd ((rank_eq_text_iff v).mpr ⟨s, ht⟩) h

theorem contentKey_of_rank_ne {v : Value} (h₁ : v.rank ≠ 7) (h₂ : v.rank ≠ 8) (h₃ : v.rank ≠ 9) :
    v.contentKey = 0 := by
  cases v <;> simp_all [rank, contentKey]

theorem serialKey_of_rank_ne {v : Value} (h : v.rank ≠ 7) : v.serialKey = 0 := by
  cases v <;> simp_all [rank, serialKey]

theorem compareKeys_of_number {a b : Value} {x y : Binary64} (ha : a.number? = some x)
    (hb : b.number? = some y) : compareKeys a b = x.compareTotal y := by
  have ra : a.rank = 2 := (rank_eq_number_iff a).mpr ⟨x, ha⟩
  have rb : b.rank = 2 := (rank_eq_number_iff b).mpr ⟨y, hb⟩
  simp [compareKeys, compareLex, compareOn, ra, rb, numberKey, ha, hb, Binary64.compareTotal,
    textKey_of_rank_ne, contentKey_of_rank_ne, serialKey_of_rank_ne]

theorem compareKeys_of_text {a b : Value} {s t : String} (ha : a.text? = some s)
    (hb : b.text? = some t) : compareKeys a b = Ord.compare s t := by
  have ra : a.rank = 3 := (rank_eq_text_iff a).mpr ⟨s, ha⟩
  have rb : b.rank = 3 := (rank_eq_text_iff b).mpr ⟨t, hb⟩
  simp [compareKeys, compareLex, compareOn, ra, rb, textKey, ha, hb,
    numberKey_of_rank_ne, contentKey_of_rank_ne, serialKey_of_rank_ne]

theorem compareKeys_boolean (x y : Bool) :
    compareKeys (.boolean x) (.boolean y) = Ord.compare x y := by
  cases x <;> cases y <;> decide

theorem compareKeys_dateTime (x y : Instant) :
    compareKeys (.dateTime x) (.dateTime y) = Ord.compare x.millis.toInt y.millis.toInt := by
  simp [compareKeys, compareLex, compareOn, rank, contentKey, numberKey, number?, textKey, text?,
    serialKey]

theorem compareKeys_objectId (x y : ObjectId) :
    compareKeys (.objectId x) (.objectId y) = x.compare y := by
  have hv : Ord.compare (x.value.toNat : Int) y.value.toNat
      = Ord.compare x.value.toNat y.value.toNat := by
    simp only [Ord.compare, compareOfLessAndEq, Int.ofNat_lt, Int.ofNat_inj]
  simp [compareKeys, compareLex, compareOn, rank, contentKey, numberKey, number?, textKey, text?,
    serialKey, ObjectId.compare, hv]

theorem compareKeys_of_rank_ne {a b : Value} (h : a.rank ≠ b.rank) :
    compareKeys a b = Ord.compare a.rank b.rank := by
  have hne : Ord.compare a.rank b.rank ≠ .eq := by simpa using h
  cases ho : Ord.compare a.rank b.rank <;> simp_all [compareKeys, compareLex, compareOn]

def orderedRanks : List Nat := [2, 3, 7, 8, 9]

theorem compareKeys_of_unordered {a b : Value} (h : a.rank = b.rank)
    (hr : a.rank ∉ orderedRanks) : compareKeys a b = .eq := by
  have hb : b.rank ∉ orderedRanks := h ▸ hr
  simp only [orderedRanks, List.mem_cons, List.not_mem_nil, or_false, not_or] at hr hb
  simp [compareKeys, compareLex, compareOn, h, numberKey_of_rank_ne hr.1, numberKey_of_rank_ne hb.1,
    textKey_of_rank_ne hr.2.1, textKey_of_rank_ne hb.2.1,
    contentKey_of_rank_ne hr.2.2.1 hr.2.2.2.1 hr.2.2.2.2,
    contentKey_of_rank_ne hb.2.2.1 hb.2.2.2.1 hb.2.2.2.2,
    serialKey_of_rank_ne hr.2.2.1, serialKey_of_rank_ne hb.2.2.1]

theorem compareKeys_of_inClass {a b : Value} {o : Ordering} (h : a.compareInClass? b = some o) :
    compareKeys a b = o := by
  revert h
  fun_cases compareInClass? a b with
  | case1 _ _ x y hb ha =>
    intro h
    rw [compareKeys_of_number ha hb, ← Option.some.inj h]
  | case2 _ _ s t hb ha =>
    intro h
    rw [compareKeys_of_text ha hb, ← Option.some.inj h]
  | case3 x y =>
    intro h
    rw [compareKeys_boolean, ← Option.some.inj h]
  | case4 x y =>
    intro h
    rw [compareKeys_dateTime, ← Option.some.inj h]
  | case5 x y =>
    intro h
    rw [compareKeys_objectId, ← Option.some.inj h]
  | case6 =>
    intro h
    cases h

/-- Values without an order between them do not share a rank with an order. -/
theorem rank_of_compareInClass?_none {a b : Value} (h : a.compareInClass? b = none)
    (hr : a.rank = b.rank) : a.rank ∉ orderedRanks := by
  intro hmem
  simp only [orderedRanks, List.mem_cons, List.not_mem_nil, or_false] at hmem
  rcases hmem with h2 | h3 | h7 | h8 | h9
  · obtain ⟨x, hx⟩ := (rank_eq_number_iff a).mp h2
    obtain ⟨y, hy⟩ := (rank_eq_number_iff b).mp (hr ▸ h2)
    simp [compareInClass?, hx, hy] at h
  · obtain ⟨s, hs⟩ := (rank_eq_text_iff a).mp h3
    obtain ⟨t, ht⟩ := (rank_eq_text_iff b).mp (hr ▸ h3)
    simp only [compareInClass?, hs, ht] at h
    split at h
    · cases h
    · cases h
  · obtain ⟨x, rfl⟩ := (rank_eq_objectId_iff a).mp h7
    obtain ⟨y, rfl⟩ := (rank_eq_objectId_iff b).mp (hr ▸ h7)
    cases h
  · obtain ⟨x, rfl⟩ := (rank_eq_boolean_iff a).mp h8
    obtain ⟨y, rfl⟩ := (rank_eq_boolean_iff b).mp (hr ▸ h8)
    cases h
  · obtain ⟨x, rfl⟩ := (rank_eq_dateTime_iff a).mp h9
    obtain ⟨y, rfl⟩ := (rank_eq_dateTime_iff b).mp (hr ▸ h9)
    cases h

theorem compare_eq_compareKeys (a b : Value) : a.compare b = compareKeys a b := by
  unfold compare
  cases h : a.compareInClass? b with
  | some o => exact (compareKeys_of_inClass h).symm
  | none =>
    by_cases hr : a.rank = b.rank
    · rw [compareKeys_of_unordered hr (rank_of_compareInClass?_none h hr)]
      simp [hr]
    · rw [compareKeys_of_rank_ne hr]
      rfl

theorem rank_mem_orderedRanks {a b : Value} {o : Ordering} (h : a.compareInClass? b = some o) :
    a.rank = b.rank ∧ a.rank ∈ orderedRanks := by
  revert h
  fun_cases compareInClass? a b with
  | case1 _ _ x y hb ha =>
    intro h
    have ra := (rank_eq_number_iff a).mpr ⟨x, ha⟩
    have rb := (rank_eq_number_iff b).mpr ⟨y, hb⟩
    simp [ra, rb, orderedRanks]
  | case2 _ _ s t hb ha =>
    intro h
    have ra := (rank_eq_text_iff a).mpr ⟨s, ha⟩
    have rb := (rank_eq_text_iff b).mpr ⟨t, hb⟩
    simp [ra, rb, orderedRanks]
  | case3 x y | case4 x y | case5 x y =>
    intro h
    simp [rank, orderedRanks]
  | case6 =>
    intro h
    cases h

/-- A class with an order fills a rank, and inside it the order is that of all values. -/
theorem compareInClass?_eq_some_iff {a b : Value} {o : Ordering} : a.compareInClass? b = some o
    ↔ (a.rank = b.rank ∧ a.rank ∈ orderedRanks) ∧ a.compare b = o := by
  constructor
  · intro h
    have hcompare : a.compare b = o := by
      rw [compare_eq_compareKeys]
      exact compareKeys_of_inClass h
    exact ⟨rank_mem_orderedRanks h, hcompare⟩
  · intro h
    obtain ⟨⟨hrank, hmem⟩, hcompare⟩ := h
    cases hin : a.compareInClass? b with
    | none => exact absurd hmem (rank_of_compareInClass?_none hin hrank)
    | some o' =>
      rw [compare_eq_compareKeys, compareKeys_of_inClass hin] at hcompare
      rw [hcompare]

theorem rank_le_of_compare {a b : Value} (h : a.compare b ≠ .gt) : a.rank ≤ b.rank := by
  by_cases hr : a.rank = b.rank
  · exact Nat.le_of_eq hr
  · rw [compare_eq_compareKeys, compareKeys_of_rank_ne hr] at h
    exact Nat.compare_ne_gt.mp h

instance : Std.TransCmp compareKeys := by
  unfold compareKeys
  infer_instance

instance : Std.TransCmp compare := by
  have h : compare = compareKeys := funext fun a => funext (compare_eq_compareKeys a)
  rw [h]
  infer_instance

end DocQuery.Value
