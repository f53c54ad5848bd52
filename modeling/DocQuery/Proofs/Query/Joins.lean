import DocQuery.Proofs.Criteria.RoundTrip
import DocQuery.Proofs.Query.Merge

/-!
The arrays in a compiled predicate: branches, one of which must hold, and parts, all of which must.
Each has an item for every condition or filter, in their order, and none is empty. That an OR has a
condition at all is known only from how its value was built.
-/
namespace DocQuery

/-- An array under a key that joins predicates, in a predicate or in an item of such an array. -/
inductive Document.Joins (p : Document) : String → List Value → Prop where
  | here {key : String} {items : List Value} (hkey : key ∈ ["$or", "$and"])
    (h : (key, .array items) ∈ p) : Joins p key items
  | inside {outer key : String} {branches items : List Value} {q : Document}
    (houter : Joins p outer branches) (hq : .document q ∈ branches) (hkey : key ∈ ["$or", "$and"])
    (h : (key, .array items) ∈ q) : Joins p key items

inductive Criteria.Joined (c : Config) (filters : List Filter) : String → List Value → Prop where
  | any {f : Filter} {conditions : List Filter} {items : List Value} (hf : f ∈ filters)
    (hop : f.operator = .anyOf) (hs : f.value.shape = .conditions conditions)
    (hitems : List.Forall₂ (fun b x => ∃ condition,
      b.operator.condition? b.value c.encoding = some condition
        ∧ x = .document [(b.field.text, .document condition)]) conditions items) :
    Joined c filters "$or" items
  | all {items : List Value} (hmerge : c.merge = .conjunction) (hmany : 2 ≤ filters.length)
    (hitems : List.Forall₂ (fun f x => ∃ g : Fragment,
      f.fragment c.encoding = .ok g ∧ x = .document g.document) filters items) :
    Joined c filters "$and" items

namespace FilterValue

variable {w : FilterValue} {filters : List Filter}

theorem Built.conditions_ne_nil (h : w.Built) (hs : w.shape = .conditions filters) :
    filters ≠ [] := by
  have hread {v : Value} (hv : ofValue v = .ok w) : filters ≠ [] := by
    have hfits := fits_of_ofValue hv
    rw [hs] at hfits
    cases hfits with
    | conditions hstarts hitems =>
      rintro rfl
      cases hitems
      cases hstarts
  cases h with
  | value hv => exact hread hv
  | range hv => exact hread hv
  | list hv => exact hread hv
  | conditions hv _ =>
    rw [shape_of_ofConditions hv] at hs
    cases hs
    rintro rfl
    cases hv

end FilterValue

namespace Merged

variable {c : Config} {filters : List Filter} {gs : List Fragment} {m : Merged} {e : String × Value}

/-- An entry of a merged predicate is a fragment, or the conjunction of several. -/
theorem entry_or_conjunction {policy : MergePolicy} (he : e ∈ (ofFragments policy gs).predicate) :
    (∃ g ∈ gs, e = g.entry) ∨ policy = .conjunction ∧ gs.length ≠ 1
      ∧ e = ("$and", .array (gs.map fun g => .document g.document)) := by
  cases policy with
  | lastWriteWins =>
    obtain ⟨g, hg, rfl⟩ := mem_lastWrites_iff.mp he
    exact .inl ⟨g, mem_of_lastWith? hg, rfl⟩
  | conjunction =>
    simp only [ofFragments, conjunction] at he
    split at he
    next g => exact .inl ⟨g, List.mem_singleton_self g, List.mem_singleton.mp he⟩
    next hone =>
      refine .inr ⟨rfl, fun hlength => ?_, List.mem_singleton.mp he⟩
      obtain ⟨g, rfl⟩ := List.length_eq_one_iff.mp hlength
      exact hone g rfl

end Merged

namespace Criteria

variable {c : Config} {filters : List Filter} {f : Filter} {g : Fragment} {key : String}
  {items : List Value}

theorem joined_of_fragment (hf : f ∈ filters) (h : f.fragment c.encoding = .ok g)
    (he : (key, .array items) = g.entry) : Joined c filters key items := by
  cases Filter.emits_of_fragment h with
  | simple | range | oneOf | noneOf => cases he
  | anyOf hop hs hb =>
    cases he
    refine .any hf hop hs (List.forall₂_map_right_iff.mpr (hb.imp fun b p hp => ?_))
    unfold Filter.branch at hp
    split at hp
    next condition hcondition =>
      cases hp
      exact ⟨condition, hcondition, rfl⟩
    next => cases hp

theorem joined_of_mem_predicate {m : Merged} (h : Merged.ofFilters c filters = .ok m)
    (he : (key, .array items) ∈ m.predicate) : Joined c filters key items := by
  obtain ⟨gs, hgs, rfl⟩ := Merged.ofFilters_eq_ok_iff.mp h
  split at he
  next => cases he
  next hne =>
    rcases Merged.entry_or_conjunction he with ⟨g, hg, hentry⟩ | ⟨hmerge, hone, hentry⟩
    · obtain ⟨f, hf, hfg⟩ := exists_mem_of_forall₂ hgs.flip hg
      exact joined_of_fragment hf hfg hentry
    · cases hentry
      have hlength : filters.length = gs.length := hgs.length_eq
      have hpos : gs.length ≠ 0 := by simpa using hne
      refine .all hmerge (by omega) (List.forall₂_map_right_iff.mpr (hgs.imp fun f g hfg => ?_))
      exact ⟨g, hfg, rfl⟩

/-- Below a conjunction stand fragments, and below an OR nothing is joined. -/
theorem joined_of_joins {m : Merged} (h : Merged.ofFilters c filters = .ok m)
    (hj : Document.Joins m.predicate key items) : Joined c filters key items := by
  induction hj with
  | here _ he => exact joined_of_mem_predicate h he
  | @inside outer key branches items q _ hq hkey he ih =>
    cases ih with
    | any hf hop hs hitems =>
      -- The condition of a field is a document, even where the field is named like a join.
      obtain ⟨b, -, condition, -, hdocument⟩ := exists_mem_of_forall₂ hitems.flip hq
      cases hdocument
      simp at he
    | all _ _ hitems =>
      obtain ⟨f, hf, g, hg, hdocument⟩ := exists_mem_of_forall₂ hitems.flip hq
      cases hdocument
      exact joined_of_fragment hf hg (List.mem_singleton.mp he)

theorem Joined.ne_nil (h : Joined c filters key items) (hbuilt : ∀ f ∈ filters, f.value.Built) :
    items ≠ [] := by
  rintro rfl
  cases h with
  | any hf _ hs hitems =>
    cases hitems
    exact (hbuilt _ hf).conditions_ne_nil hs rfl
  | all _ hmany hitems =>
    cases hitems
    simp at hmany

end Criteria

end DocQuery
