import DocQuery.Proofs.Outcome
import DocQuery.Query.Fragment

/-!
Filters without a fragment. A composite operator asks for a shape, and an OR for conditions that are
all simple; the error says what is asked for, or which operator is not simple. Simple operators take
every value, so that none of them is ever without a condition.
-/
namespace DocQuery

namespace Filter

def MeetsComposite (filters : List Filter) (e : Error) : Prop :=
  Meets (fun c => c.operator.isComposite = true ∧ e = .unsupportedCondition c.operator)
    (fun c => c.operator.isComposite = false) filters

/-- The ways in which a filter does not go with its value, and the errors they give. -/
inductive Misfit (f : Filter) (e : Error) : Prop where
  | range (hop : f.operator = .between) (hs : ∀ start stop, f.value.shape ≠ .range start stop)
    (he : e = .invalidShape (.operand .range))
  | list (hop : f.operator = .oneOf ∨ f.operator = .noneOf)
    (hs : ∀ items, f.value.shape ≠ .list items) (he : e = .invalidShape (.operand .list))
  | conditions (hop : f.operator = .anyOf) (hs : ∀ filters, f.value.shape ≠ .conditions filters)
    (he : e = .invalidShape (.operand .conditions))
  | condition {filters : List Filter} (hop : f.operator = .anyOf)
    (hs : f.value.shape = .conditions filters) (hfirst : MeetsComposite filters e)

end Filter

theorem Operator.condition?_eq_none_iff (op : Operator) (v : FilterValue)
    (encoding : ScalarEncoding) : op.condition? v encoding = none ↔ op.isComposite = true := by
  cases op <;> simp [condition?, isComposite]

namespace Filter

variable {f : Filter} {encoding : ScalarEncoding} {e : Error}

theorem branch_eq_error_iff : f.branch encoding = .error e
    ↔ f.operator.isComposite = true ∧ e = .unsupportedCondition f.operator := by
  rw [← Operator.condition?_eq_none_iff f.operator f.value encoding, branch]
  cases f.operator.condition? f.value encoding <;> simp [eq_comm]

theorem exists_branch_iff :
    (∃ p, f.branch encoding = .ok p) ↔ f.operator.isComposite = false := by
  rw [← Bool.not_eq_true, ← Operator.condition?_eq_none_iff f.operator f.value encoding, branch]
  cases f.operator.condition? f.value encoding <;> simp

theorem rangeFragment_eq_error_iff : f.rangeFragment = .error e
    ↔ (∀ start stop, f.value.shape ≠ .range start stop) ∧ e = .invalidShape (.operand .range) := by
  unfold rangeFragment FilterValue.bounds
  cases f.value.shape <;> simp [eq_comm]

theorem listFragment_eq_error_iff {key : String} : f.listFragment key = .error e
    ↔ (∀ items, f.value.shape ≠ .list items) ∧ e = .invalidShape (.operand .list) := by
  unfold listFragment FilterValue.items
  cases f.value.shape <;> simp [eq_comm]

theorem branches_eq_error_iff {filters : List Filter} :
    (filters.mapM fun c => c.branch encoding) = .error e ↔ MeetsComposite filters e := by
  rw [mapM_eq_error_iff]
  simp only [branch_eq_error_iff, exists_branch_iff, MeetsComposite]

theorem conditionsFragment_eq_error_iff : f.conditionsFragment encoding = .error e
    ↔ (∀ filters, f.value.shape ≠ .conditions filters) ∧ e = .invalidShape (.operand .conditions)
      ∨ ∃ filters, f.value.shape = .conditions filters ∧ MeetsComposite filters e := by
  unfold conditionsFragment FilterValue.conditions
  cases f.value.shape with
  | conditions filters => simp [bind_eq_error_iff, branches_eq_error_iff, pure, Except.pure]
  | scalar v | list items | range start stop => simp [eq_comm]

/-- A filter has no fragment just when it does not go with its value. -/
theorem fragment_eq_error_iff : f.fragment encoding = .error e ↔ f.Misfit e := by
  constructor
  · intro h
    unfold fragment at h
    split at h
    next hop =>
      obtain ⟨hs, he⟩ := rangeFragment_eq_error_iff.mp h
      exact .range hop hs he
    next hop =>
      rcases conditionsFragment_eq_error_iff.mp h with ⟨hs, he⟩ | ⟨filters, hs, hfirst⟩
      · exact .conditions hop hs he
      · exact .condition hop hs hfirst
    next hop =>
      obtain ⟨hs, he⟩ := listFragment_eq_error_iff.mp h
      exact .list (.inl hop) hs he
    next hop =>
      obtain ⟨hs, he⟩ := listFragment_eq_error_iff.mp h
      exact .list (.inr hop) hs he
    next hbetween hany hone hnone =>
      -- The operator is a simple one, and these have a condition for every value.
      split at h
      next => cases h
      next hcondition =>
        have hcomposite := (Operator.condition?_eq_none_iff _ _ _).mp hcondition
        cases hop : f.operator <;> simp_all [Operator.isComposite]
  · intro h
    unfold fragment
    cases h with
    | range hop hs he =>
      rw [hop]
      exact rangeFragment_eq_error_iff.mpr ⟨hs, he⟩
    | list hop hs he =>
      rcases hop with hop | hop
      · rw [hop]
        exact listFragment_eq_error_iff.mpr ⟨hs, he⟩
      · rw [hop]
        exact listFragment_eq_error_iff.mpr ⟨hs, he⟩
    | conditions hop hs he =>
      rw [hop]
      exact conditionsFragment_eq_error_iff.mpr (.inl ⟨hs, he⟩)
    | condition hop hs hfirst =>
      rw [hop]
      exact conditionsFragment_eq_error_iff.mpr (.inr ⟨_, hs, hfirst⟩)

theorem exists_fragment_iff : (∃ g, f.fragment encoding = .ok g) ↔ ∀ e, ¬ f.Misfit e := by
  have hmisfit (e : Error) : f.Misfit e ↔ f.fragment encoding = .error e :=
    fragment_eq_error_iff.symm
  simp only [hmisfit]
  cases f.fragment encoding <;> simp

theorem not_misfit_of_simple (hop : f.operator.isComposite = false) : ¬ f.Misfit e := by
  intro h
  cases h with
  | range h | conditions h | condition h => simp [h, Operator.isComposite] at hop
  | list h => rcases h with h | h <;> simp [h, Operator.isComposite] at hop

theorem Misfit.isDomain (h : f.Misfit e) : e.isDomain = true := by
  cases h with
  | range _ _ he | list _ _ he | conditions _ _ he => subst he; rfl
  | condition _ _ hfirst =>
    obtain ⟨_, c, _, -, -, -, he⟩ := hfirst
    subst he
    rfl

end Filter

end DocQuery
