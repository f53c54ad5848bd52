import DocQuery.Proofs.Outcome
import DocQuery.Store.Matcher

/-!
Evaluating a predicate. It asks only for patterns that stand in the predicate, and it is true when
each entry on its own is.
-/
namespace DocQuery

namespace Predicate

variable {r s : Resolver}

theorem isFound_congr (v : Option Value) (arg : Value)
    (h : ∀ t ∈ patternsUnder "$regex" arg, r t = s t) : isFound r v arg = isFound s v arg := by
  cases arg with
  | string pattern =>
    have ht : r pattern = s pattern := h pattern (by simp [patternsUnder])
    simp [isFound, ht]
  | _ => rfl

theorem operatorHolds_congr (v : Option Value) (op : String) (arg : Value)
    (h : ∀ t ∈ patternsUnder op arg, r t = s t) :
    operatorHolds r v op arg = operatorHolds s v op arg := by
  by_cases hop : op = "$regex"
  · subst hop
    exact isFound_congr v arg h
  · unfold operatorHolds
    split <;> first | rfl | contradiction

mutual
theorem conditionHolds_congr (v : Option Value) (key : String) (c : Value)
    (h : ∀ t ∈ patternsUnder key c, r t = s t) : conditionHolds r v c = conditionHolds s v c := by
  cases c with
  | document d =>
    have hd := operatorsHold_congr v d (by simpa only [patternsUnder] using h)
    simp only [conditionHolds, hd]
  | _ => simp only [conditionHolds]

theorem operatorsHold_congr (v : Option Value) (ops : List (String × Value))
    (h : ∀ t ∈ patterns ops, r t = s t) : operatorsHold r v ops = operatorsHold s v ops := by
  match ops with
  | [] => rfl
  | (op, arg) :: rest =>
    simp only [patterns, List.mem_append] at h
    have harg : ∀ t ∈ patternsUnder op arg, r t = s t := fun t ht => h t (.inl ht)
    have hrest := operatorsHold_congr v rest fun t ht => h t (.inr ht)
    simp only [operatorsHold, hrest, conditionHolds_congr v op arg harg,
      operatorHolds_congr v op arg harg]
end

mutual
/-- Evaluation asks only for the patterns of the predicate. -/
theorem entriesHold_congr (d : Document) (p : List (String × Value))
    (h : ∀ t ∈ patterns p, r t = s t) : entriesHold r d p = entriesHold s d p := by
  match p with
  | [] => rfl
  | (key, condition) :: rest =>
    simp only [patterns, List.mem_append] at h
    have hc : ∀ t ∈ patternsUnder key condition, r t = s t := fun t ht => h t (.inl ht)
    have hrest := entriesHold_congr d rest fun t ht => h t (.inr ht)
    simp only [entriesHold, hrest, someBranch_congr d key condition hc,
      everyBranch_congr d key condition hc, conditionHolds_congr (d.at? key) key condition hc]

theorem someBranch_congr (d : Document) (key : String) (c : Value)
    (h : ∀ t ∈ patternsUnder key c, r t = s t) :
    someBranch r d key c = someBranch s d key c := by
  cases c with
  | array items =>
    have hi := someHolds_congr d items (by simpa only [patternsUnder] using h)
    simp only [someBranch, hi]
  | _ => simp only [someBranch]

theorem everyBranch_congr (d : Document) (key : String) (c : Value)
    (h : ∀ t ∈ patternsUnder key c, r t = s t) :
    everyBranch r d key c = everyBranch s d key c := by
  cases c with
  | array items =>
    have hi := everyHolds_congr d items (by simpa only [patternsUnder] using h)
    simp only [everyBranch, hi]
  | _ => simp only [everyBranch]

theorem someHolds_congr (d : Document) (items : List Value)
    (h : ∀ t ∈ itemPatterns items, r t = s t) : someHolds r d items = someHolds s d items := by
  match items with
  | [] => rfl
  | item :: rest =>
    cases item with
    | document p =>
      simp only [itemPatterns, List.mem_append] at h
      have hp := entriesHold_congr d p fun t ht => h t (.inl ht)
      have hrest := someHolds_congr d rest fun t ht => h t (.inr ht)
      simp only [someHolds, hp, hrest]
    | _ => simp only [someHolds]

theorem everyHolds_congr (d : Document) (items : List Value)
    (h : ∀ t ∈ itemPatterns items, r t = s t) : everyHolds r d items = everyHolds s d items := by
  match items with
  | [] => rfl
  | item :: rest =>
    cases item with
    | document p =>
      simp only [itemPatterns, List.mem_append] at h
      have hp := entriesHold_congr d p fun t ht => h t (.inl ht)
      have hrest := everyHolds_congr d rest fun t ht => h t (.inr ht)
      simp only [everyHolds, hp, hrest]
    | _ => simp only [everyHolds]
end

theorem entriesHold_singleton (d : Document) (key : String) (condition : Value) :
    entriesHold r d [(key, condition)]
      = if key = "$or" then someBranch r d key condition
        else if key = "$and" then everyBranch r d key condition
        else if isDollar key then .error (.internal (.topLevelOperator key))
        else conditionHolds r (d.at? key) condition := by
  simp only [entriesHold, bind_ite_ok]

theorem ne_of_isDollar_eq_false {path : String} (h : isDollar path = false) :
    path ≠ "$or" ∧ path ≠ "$and" := by
  constructor
  · intro he
    simp [he, isDollar] at h
  · intro he
    simp [he, isDollar] at h

theorem entriesHold_path (d : Document) {path : String} (h : isDollar path = false)
    (condition : Value) :
    entriesHold r d [(path, condition)] = conditionHolds r (d.at? path) condition := by
  obtain ⟨hor, hand⟩ := ne_of_isDollar_eq_false h
  rw [entriesHold_singleton, if_neg hor, if_neg hand, h, if_neg Bool.false_ne_true]

theorem entriesHold_cons (d : Document) (e : String × Value) (rest : List (String × Value)) :
    entriesHold r d (e :: rest)
      = entriesHold r d [e] >>= fun b => if b then entriesHold r d rest else .ok false := by
  obtain ⟨key, condition⟩ := e
  rw [entriesHold_singleton]
  simp only [entriesHold]
  split
  · rfl
  · split
    · rfl
    · split <;> rfl

/-- A predicate is true when each of its entries is. -/
theorem entriesHold_eq_ok_true_iff (d : Document) (p : List (String × Value)) :
    entriesHold r d p = .ok true ↔ ∀ e ∈ p, entriesHold r d [e] = .ok true := by
  induction p with
  | nil => simp [entriesHold]
  | cons e rest ih =>
    rw [entriesHold_cons, bind_both_eq_ok_true_iff, ih, List.forall_mem_cons]

theorem everyHolds_eq_ok_true_iff (d : Document) (ps : List Document) :
    everyHolds r d (ps.map .document) = .ok true ↔ ∀ p ∈ ps, entriesHold r d p = .ok true := by
  induction ps with
  | nil => simp [everyHolds]
  | cons p rest ih =>
    rw [List.map_cons, everyHolds, bind_both_eq_ok_true_iff, ih, List.forall_mem_cons]

theorem entriesHold_and_eq_ok_true_iff (d : Document) (ps : List Document) :
    entriesHold r d [("$and", .array (ps.map .document))] = .ok true
      ↔ ∀ p ∈ ps, entriesHold r d p = .ok true := by
  have hall : (ps.map Value.document).all isDocument = true := by simp [isDocument]
  rw [entriesHold_singleton]
  simp only [String.reduceEq, if_false, if_true, everyBranch, hall]
  exact everyHolds_eq_ok_true_iff d ps

end Predicate

end DocQuery
