import DocQuery.Proofs.Filter.Fragment
import DocQuery.Proofs.Predicate.Patterns
import Mathlib

/-!
What a filter means for a document, said without predicates, and that its fragment says the same. A
name that starts with a dollar sign is taken for an operator, so a fragment cannot be evaluated once
such a name is met.
-/
namespace DocQuery

namespace Value

def Stands (v : Value) (wanted : Ordering → Bool) (arg : Value) : Prop :=
  ∃ o, v.compareInClass? arg = some o ∧ wanted o = true

def Shows (v : Value) (pattern : String) : Prop :=
  ∃ text p, v.text? = some text ∧ Pattern.read? pattern = some p ∧ p.isFoundIn text = true

end Value

/-- What a filter compares with. Where types are kept a scalar is compared as it is, and all else is
compared as its canonical text. -/
inductive FilterValue.ComparedAs (w : FilterValue) : ScalarEncoding → Value → Prop where
  | itself {a : Value} (hshape : w.shape = .scalar a) : ComparedAs w .typed a
  | text : ComparedAs w .canonical (.string w.canonical)
  | textOfOther (hshape : ∀ a, w.shape ≠ .scalar a) : ComparedAs w .typed (.string w.canonical)

/-- What a simple operator means for a value that may be absent. -/
def Operator.Means (op : Operator) (w : FilterValue) (encoding : ScalarEncoding)
    (v : Option Value) : Prop :=
  match op with
  | equal => ∃ x ∈ v, ∃ a, w.ComparedAs encoding a ∧ x.equal a = true
  | notEqual => ¬ ∃ x ∈ v, ∃ a, w.ComparedAs encoding a ∧ x.equal a = true
  | greater => ∃ x ∈ v, ∃ a, w.ComparedAs encoding a ∧ x.Stands Ordering.isGT a
  | greaterOrEqual => ∃ x ∈ v, ∃ a, w.ComparedAs encoding a ∧ x.Stands Ordering.isGE a
  | less => ∃ x ∈ v, ∃ a, w.ComparedAs encoding a ∧ x.Stands Ordering.isLT a
  | lessOrEqual => ∃ x ∈ v, ∃ a, w.ComparedAs encoding a ∧ x.Stands Ordering.isLE a
  | contains => ∃ x ∈ v, x.Shows w.canonical
  | notContains => ¬ ∃ x ∈ v, x.Shows w.canonical
  | between | anyOf | oneOf | noneOf => False

theorem FilterValue.comparedAs_iff {w : FilterValue} {encoding : ScalarEncoding} {a : Value} :
    w.ComparedAs encoding a ↔ a = w.argument encoding := by
  constructor
  · intro h
    cases h with
    | itself hshape => simp [argument, hshape]
    | text => rfl
    | textOfOther hshape =>
      cases hs : w.shape with
      | scalar raw => exact absurd hs (hshape raw)
      | list items | range start stop | conditions filters => simp [argument, hs]
  · intro h
    subst h
    cases encoding with
    | canonical => exact .text
    | typed =>
      cases hs : w.shape with
      | scalar raw => simpa [argument, hs] using ComparedAs.itself hs
      | list items | range start stop | conditions filters =>
        simpa [argument, hs] using ComparedAs.textOfOther (w := w) (by simp [hs])

theorem FilterValue.exists_comparedAs_iff {w : FilterValue} {encoding : ScalarEncoding}
    {p : Value → Prop} : (∃ a, w.ComparedAs encoding a ∧ p a) ↔ p (w.argument encoding) := by
  simp only [comparedAs_iff, exists_eq_left]

namespace Filter

def MeansSimply (f : Filter) (encoding : ScalarEncoding) (d : Document) : Prop :=
  f.operator.Means f.value encoding (d.at? f.field.text)

def Means (f : Filter) (encoding : ScalarEncoding) (d : Document) : Prop :=
  match f.operator, f.value.shape with
  | .between, .range start stop =>
    ∃ x ∈ d.at? f.field.text, x.Stands Ordering.isGE start ∧ x.Stands Ordering.isLE stop
  | .oneOf, .list items => ∃ x ∈ d.at? f.field.text, ∃ item ∈ items, x.equal item = true
  | .noneOf, .list items => ¬ ∃ x ∈ d.at? f.field.text, ∃ item ∈ items, x.equal item = true
  | .anyOf, .conditions filters => ∃ c ∈ filters, c.MeansSimply encoding d
  | _, _ => f.MeansSimply encoding d

def hasDollar (f : Filter) : Bool := Predicate.isDollar f.field.text

/-- An OR has a condition on a field with a dollar sign before any condition that holds; any other
filter is itself on such a field. -/
def Blocked (f : Filter) (encoding : ScalarEncoding) (d : Document) : Prop :=
  match f.operator, f.value.shape with
  | .anyOf, .conditions filters =>
    Meets (fun c => c.hasDollar = true) (fun c => ¬ c.MeansSimply encoding d) filters
  | _, _ => f.hasDollar = true

end Filter

namespace Predicate

variable {r : Resolver}

theorem isDollar_operator {op : String} (h : op ∈ ["$eq", "$ne", "$gt", "$gte", "$lt", "$lte", "$in",
    "$nin", "$regex", "$not", "$or", "$and"]) : isDollar op = true := by
  simp only [List.mem_cons, List.not_mem_nil, or_false] at h
  rcases h with h | h | h | h | h | h | h | h | h | h | h | h <;> subst h <;> simp [isDollar]

theorem equals_iff {v : Option Value} {arg : Value} :
    equals v arg = true ↔ ∃ x ∈ v, x.equal arg = true := by
  cases v <;> simp [equals]

theorem compares_iff {v : Option Value} {arg : Value} {wanted : Ordering → Bool} :
    compares v arg wanted = true ↔ ∃ x ∈ v, x.Stands wanted arg := by
  cases v with
  | none => simp [compares]
  | some x => cases h : x.compareInClass? arg <;> simp [compares, Value.Stands, h]

theorem isFound_onDemand {v : Option Value} {pattern : String} (h : Readable pattern) :
    ∃ b, isFound onDemand v (.string pattern) = .ok b
      ∧ (b = true ↔ ∃ x ∈ v, x.Shows pattern) := by
  obtain ⟨p, hp⟩ := h
  have hd : onDemand pattern = .ok p := by simp [onDemand, hp]
  cases ht : v.bind Value.text? with
  | none =>
    refine ⟨false, by simp [isFound, ht], ?_⟩
    simp only [Bool.false_eq_true, false_iff]
    rintro ⟨x, hx, text, -, htext, -⟩
    simp [Option.mem_def.mp hx, htext] at ht
  | some text =>
    refine ⟨p.isFoundIn text, by simp [isFound, ht, hd, Except.map], ?_⟩
    obtain ⟨x, hx, htext⟩ := Option.bind_eq_some_iff.mp ht
    simp [Value.Shows, hx, htext, hp]

/-- A condition with one operator, `$not` apart. -/
theorem conditionHolds_operator (v : Option Value) {op : String} (arg : Value)
    (h : isDollar op = true) (hn : op ≠ "$not") :
    conditionHolds r v (.document [(op, arg)]) = operatorHolds r v op arg := by
  simp [conditionHolds, isOperators, h, operatorsHold, hn]

theorem conditionHolds_not (v : Option Value) (arg : Value) :
    conditionHolds r v (.document [("$not", arg)]) = (conditionHolds r v arg).map not := by
  simp [conditionHolds, isOperators, isDollar_operator, operatorsHold]

/-- The condition of a range asks for the lower bound first. -/
theorem range_means (v : Option Value) (start stop : Value) :
    ∃ b, conditionHolds r v (.document [("$gte", start), ("$lte", stop)]) = .ok b
      ∧ (b = true ↔ ∃ x ∈ v, x.Stands Ordering.isGE start ∧ x.Stands Ordering.isLE stop) := by
  refine ⟨compares v start Ordering.isGE && compares v stop Ordering.isLE, ?_, ?_⟩
  · cases hl : compares v start Ordering.isGE <;> cases hu : compares v stop Ordering.isLE <;>
      simp [conditionHolds, isOperators, isDollar_operator, operatorsHold, operatorHolds, hl, hu,
        bind, Except.bind]
  · rw [Bool.and_eq_true, compares_iff, compares_iff]
    cases v <;> simp

theorem list_means (v : Option Value) (items : List Value) :
    ∃ b, conditionHolds r v (.document [("$in", .array items)]) = .ok b
      ∧ (b = true ↔ ∃ x ∈ v, ∃ item ∈ items, x.equal item = true) := by
  refine ⟨_, conditionHolds_operator v _ (isDollar_operator (by simp)) (by simp), ?_⟩
  cases v <;> simp

theorem noList_means (v : Option Value) (items : List Value) :
    ∃ b, conditionHolds r v (.document [("$nin", .array items)]) = .ok b
      ∧ (b = true ↔ ¬ ∃ x ∈ v, ∃ item ∈ items, x.equal item = true) := by
  refine ⟨_, conditionHolds_operator v _ (isDollar_operator (by simp)) (by simp), ?_⟩
  cases v <;> simp

end Predicate

namespace Operator

open Predicate

/-- The condition of a simple operator can be evaluated, and it says what the operator means. -/
theorem condition_means {op : Operator} {arg : FilterValue} {encoding : ScalarEncoding}
    {condition : Document} (hc : op.condition? arg encoding = some condition)
    (hr : ∀ t ∈ Predicate.patterns condition, Predicate.Readable t) (v : Option Value) :
    ∃ b, Predicate.conditionHolds Predicate.onDemand v (.document condition) = .ok b
      ∧ (b = true ↔ op.Means arg encoding v) := by
  have happly (key : String) (a : Value) (hk : isDollar key = true) (hn : key ≠ "$not") :=
    conditionHolds_operator (r := onDemand) v a hk hn
  cases op with
  | equal =>
    cases hc
    refine ⟨_, happly "$eq" _ (isDollar_operator (by simp)) (by simp), ?_⟩
    simp only [equals_iff, Means, FilterValue.exists_comparedAs_iff]
  | notEqual =>
    cases hc
    refine ⟨_, happly "$ne" _ (isDollar_operator (by simp)) (by simp), ?_⟩
    simp only [Bool.not_eq_true', ← Bool.not_eq_true, equals_iff, Means,
      FilterValue.exists_comparedAs_iff]
  | greater | greaterOrEqual | less | lessOrEqual =>
    cases hc
    refine ⟨_, happly _ _ (isDollar_operator (by simp)) (by simp), ?_⟩
    simp only [compares_iff, Means, FilterValue.exists_comparedAs_iff]
  | contains =>
    cases hc
    obtain ⟨b, hb, hmeans⟩ := isFound_onDemand (v := v)
      (hr arg.canonical (by simp [patterns, patternsUnder]))
    have hregex := happly "$regex" (.string arg.canonical) (isDollar_operator (by simp)) (by simp)
    exact ⟨b, hregex.trans hb, hmeans⟩
  | notContains =>
    cases hc
    obtain ⟨b, hb, hmeans⟩ := isFound_onDemand (v := v)
      (hr arg.canonical (by simp [patterns, patternsUnder]))
    have hregex := happly "$regex" (.string arg.canonical) (isDollar_operator (by simp)) (by simp)
    have hnot := conditionHolds_not (r := onDemand) v (.document [("$regex", .string arg.canonical)])
    rw [hregex.trans hb] at hnot
    refine ⟨!b, hnot, ?_⟩
    simp only [Bool.not_eq_true', ← Bool.not_eq_true, hmeans, Means]
  | between | anyOf | oneOf | noneOf => cases hc

end Operator

namespace Filter

open Predicate

/-- On a field without a dollar sign a condition is applied to the value there; on any other the
evaluation fails. -/
theorem answers_field {key : String} {condition : Document} {d : Document} {meant : Prop}
    (h : ∃ b, conditionHolds onDemand (d.at? key) (.document condition) = .ok b
      ∧ (b = true ↔ meant)) :
    Answers (entriesHold onDemand d [(key, .document condition)]) meant (isDollar key = true) := by
  obtain ⟨b, hb, hmeant⟩ := h
  cases hkey : isDollar key with
  | true =>
    simp only [entriesHold_singleton, hkey, if_true]
    split
    · exact .ofInternal _
    · split
      · exact .ofInternal _
      · exact .ofInternal _
  | false =>
    rw [entriesHold_path d hkey, hb]
    simpa using Answers.ofOk hmeant

theorem branch_answers {c : Filter} {encoding : ScalarEncoding} {p d : Document}
    (h : c.branch encoding = .ok p) (hr : ∀ t ∈ patterns p, Readable t) :
    Answers (entriesHold onDemand d p) (c.MeansSimply encoding d) (c.hasDollar = true) := by
  unfold branch at h
  split at h
  next condition hc =>
    cases h
    refine answers_field (Operator.condition_means hc (fun t ht => hr t ?_) _)
    simpa [patterns, patternsUnder] using ht
  next => cases h

theorem branches_answer {encoding : ScalarEncoding} {d : Document} {filters : List Filter}
    {branches : List Document}
    (h : List.Forall₂ (fun c p => c.branch encoding = .ok p) filters branches)
    (hr : ∀ p ∈ branches, ∀ t ∈ patterns p, Readable t) :
    Answers (someHolds onDemand d (branches.map .document))
      (∃ c ∈ filters, c.MeansSimply encoding d)
      (Meets (fun c => c.hasDollar = true) (fun c => ¬ c.MeansSimply encoding d) filters) := by
  induction h with
  | nil => simpa [someHolds, not_meets_nil] using Answers.ofOk (b := false) (s := False) (by simp)
  | cons hc _ ih =>
    have hfirst := branch_answers (d := d) hc (hr _ (by simp))
    have hrest := ih fun p hp => hr p (by simp [hp])
    simpa [someHolds, meets_cons_iff] using hfirst.either hrest

theorem means_of_simple {f : Filter} {encoding : ScalarEncoding} {d : Document}
    (hop : f.operator.isComposite = false) :
    (f.Means encoding d ↔ f.MeansSimply encoding d)
      ∧ (f.Blocked encoding d ↔ f.hasDollar = true) := by
  unfold Means Blocked
  constructor <;> split <;> simp_all [Operator.isComposite]

theorem not_composite_of_condition {op : Operator} {arg : FilterValue} {encoding : ScalarEncoding}
    {condition : Document} (h : op.condition? arg encoding = some condition) :
    op.isComposite = false := by
  cases op <;> simp_all [Operator.condition?, Operator.isComposite]

/-- The fragment of a filter says what the filter means. -/
theorem fragment_answers {f : Filter} {encoding : ScalarEncoding} {g : Fragment}
    (h : f.fragment encoding = .ok g) (hr : ∀ t ∈ patterns g.document, Readable t) (d : Document) :
    Answers (entriesHold onDemand d g.document) (f.Means encoding d) (f.Blocked encoding d) := by
  cases emits_of_fragment h with
  | simple hc =>
    obtain ⟨hmeans, hblocked⟩ := means_of_simple (d := d) (not_composite_of_condition hc)
    rw [hmeans, hblocked]
    refine answers_field (Operator.condition_means hc (fun t ht => hr t ?_) _)
    simpa [Fragment.document, Fragment.entry, patterns, patternsUnder] using ht
  | range hop hs =>
    simp only [Means, Blocked, hop, hs]
    exact answers_field (range_means _ _ _)
  | oneOf hop hs =>
    simp only [Means, Blocked, hop, hs]
    exact answers_field (list_means _ _)
  | noneOf hop hs =>
    simp only [Means, Blocked, hop, hs]
    exact answers_field (noList_means _ _)
  | anyOf hop hs hb =>
    have hdocs : ∀ ps : List Document, (ps.map Value.document).all isDocument = true := by
      simp [isDocument]
    simp only [Means, Blocked, hop, hs, Fragment.document, Fragment.entry, entriesHold_singleton,
      if_true, someBranch, hdocs]
    refine branches_answer hb fun p hp t ht => hr t ?_
    simpa [Fragment.document, Fragment.entry, patterns, patternsUnder,
      mem_itemPatterns_documents_iff] using ⟨p, hp, ht⟩

/-- Where the fragment of a filter is accepted, an answer is what the filter means for the document.
There is no answer just when the filter is blocked, and the predicate is then reported as broken. -/
theorem holds_iff_means (f : Filter) (encoding : ScalarEncoding) (g : Fragment) (m : Matcher)
    (hf : f.fragment encoding = .ok g) (hm : Matcher.ofPredicate g.document = .ok m)
    (d : Document) :
    (∀ b, m.holds d = .ok b → (b = true ↔ f.Means encoding d))
      ∧ ((∃ e, m.holds d = .error e) ↔ f.Blocked encoding d)
      ∧ ∀ e, m.holds d = .error e → e.kind = .internal := by
  have hr := Matcher.exists_ofPredicate_iff.mp ⟨m, hm⟩
  have ha := fragment_answers hf hr d
  rw [← Matcher.holds_eq_onDemand hm] at ha
  exact ⟨ha.truth, ha.failure, ha.internal⟩

def nameStartsWithJo : Filter :=
  ⟨⟨"name", by decide⟩, .contains, ⟨"^jo", .string "^jo", .scalar (.string "^jo")⟩⟩

def floorAboveTwo : Filter :=
  ⟨⟨"address.floor", by decide⟩, .greater, ⟨"2", .int32 2, .scalar (.int32 2)⟩⟩

def joOrFloorAboveTwo : Filter :=
  let raw := Value.array [.document nameStartsWithJo.document, .document floorAboveTwo.document]
  ⟨⟨"any", by decide⟩, .anyOf, ⟨raw.jsonText, raw, .conditions [nameStartsWithJo, floorAboveTwo]⟩⟩

def bobInOslo : Document :=
  [("name", .symbol "bob"),
   ("address", .document [("city", .string "Oslo"), ("floor", .int64 4)])]

/-- Bob is found by his floor, a number that is compared with a number. -/
theorem holds_iff_means_bobInOslo :
    ∃ g m, joOrFloorAboveTwo.fragment .typed = .ok g ∧ Matcher.ofPredicate g.document = .ok m
      ∧ m.holds bobInOslo = .ok true ∧ joOrFloorAboveTwo.Means .typed bobInOslo
      ∧ ¬ joOrFloorAboveTwo.Blocked .typed bobInOslo := by
  let g : Fragment := ⟨"$or", .array
    [.document [("name", .document [("$regex", .string "^jo")])],
     .document [("address.floor", .document [("$gt", .int32 2)])]]⟩
  have hf : joOrFloorAboveTwo.fragment .typed = .ok g := rfl
  obtain ⟨m, hm⟩ : ∃ m, Matcher.ofPredicate g.document = .ok m :=
    ⟨⟨_, [("^jo", .seq [.look .start, .literal ['j', 'o']])]⟩, by cbv⟩
  have hd : m.holds bobInOslo = .ok true := by
    rw [Matcher.holds_eq_onDemand hm]
    decide +kernel
  obtain ⟨htruth, hfailure, -⟩ := holds_iff_means joOrFloorAboveTwo .typed g m hf hm bobInOslo
  refine ⟨g, m, hf, hm, hd, (htruth true hd).mp rfl, fun hb => ?_⟩
  obtain ⟨e, he⟩ := hfailure.mpr hb
  simp [hd] at he

end Filter

end DocQuery
