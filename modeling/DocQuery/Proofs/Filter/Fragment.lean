import DocQuery.Proofs.Outcome
import DocQuery.Query.Fragment

/-!
The fragments that filters have, by the operator and the shape of the value. The key of a fragment
is known from the filter alone.
-/
namespace DocQuery.Filter

/-- A filter and its fragment. A filter whose value has not the shape for its operator has none. -/
inductive Emits (encoding : ScalarEncoding) (f : Filter) : Fragment → Prop where
  | simple {condition : Document} (hc : f.operator.condition? f.value encoding = some condition) :
    Emits encoding f ⟨f.field.text, .document condition⟩
  | range {start stop : Value} (hop : f.operator = .between)
    (hs : f.value.shape = .range start stop) :
    Emits encoding f ⟨f.field.text, .document [("$gte", start), ("$lte", stop)]⟩
  | oneOf {items : List Value} (hop : f.operator = .oneOf) (hs : f.value.shape = .list items) :
    Emits encoding f ⟨f.field.text, .document [("$in", .array items)]⟩
  | noneOf {items : List Value} (hop : f.operator = .noneOf) (hs : f.value.shape = .list items) :
    Emits encoding f ⟨f.field.text, .document [("$nin", .array items)]⟩
  | anyOf {filters : List Filter} {branches : List Document} (hop : f.operator = .anyOf)
    (hs : f.value.shape = .conditions filters)
    (hb : List.Forall₂ (fun c p => c.branch encoding = .ok p) filters branches) :
    Emits encoding f ⟨"$or", .array (branches.map .document)⟩

variable {f : Filter} {encoding : ScalarEncoding} {g : Fragment}

theorem emits_of_rangeFragment (hop : f.operator = .between) (h : f.rangeFragment = .ok g) :
    Emits encoding f g := by
  unfold rangeFragment FilterValue.bounds at h
  cases hs : f.value.shape with
  | range start stop =>
    rw [hs] at h
    cases h
    exact .range hop hs
  | scalar v | list items | conditions filters =>
    rw [hs] at h
    cases h

theorem emits_of_conditionsFragment (hop : f.operator = .anyOf)
    (h : f.conditionsFragment encoding = .ok g) : Emits encoding f g := by
  unfold conditionsFragment FilterValue.conditions at h
  cases hs : f.value.shape with
  | conditions filters =>
    rw [hs] at h
    obtain ⟨branches, hb, hg⟩ := bind_eq_ok_iff.mp h
    cases hg
    exact .anyOf hop hs (mapM_eq_ok_iff.mp hb)
  | scalar v | list items | range start stop =>
    rw [hs] at h
    cases h

theorem eq_of_listFragment {key : String} (h : f.listFragment key = .ok g) :
    ∃ items, f.value.shape = .list items
      ∧ g = ⟨f.field.text, .document [(key, .array items)]⟩ := by
  unfold listFragment FilterValue.items at h
  cases hs : f.value.shape with
  | list items =>
    rw [hs] at h
    cases h
    exact ⟨items, rfl, rfl⟩
  | scalar v | conditions filters | range start stop =>
    rw [hs] at h
    cases h

theorem emits_of_fragment (h : f.fragment encoding = .ok g) : Emits encoding f g := by
  unfold fragment at h
  split at h
  next hop => exact emits_of_rangeFragment hop h
  next hop => exact emits_of_conditionsFragment hop h
  next hop =>
    obtain ⟨items, hs, rfl⟩ := eq_of_listFragment h
    exact .oneOf hop hs
  next hop =>
    obtain ⟨items, hs, rfl⟩ := eq_of_listFragment h
    exact .noneOf hop hs
  next =>
    split at h
    next condition hc =>
      cases h
      exact .simple hc
    next => cases h

def key (f : Filter) : String := if f.operator = .anyOf then "$or" else f.field.text

theorem key_of_fragment (h : f.fragment encoding = .ok g) : g.key = f.key := by
  cases emits_of_fragment h with
  | simple hc =>
    have hop : f.operator ≠ .anyOf := fun he => by simp [he, Operator.condition?] at hc
    simp [key, hop]
  | range hop hs | oneOf hop hs | noneOf hop hs | anyOf hop hs hb => simp [key, hop]

end DocQuery.Filter
