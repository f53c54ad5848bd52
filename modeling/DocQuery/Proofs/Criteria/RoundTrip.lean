import DocQuery.Proofs.Criteria.Reading

/-!
Filters that are built from typed parts against those that are read from documents. A filter is read
again from the document that is made of it, unless there is an undefined value in it, its own or that
of a condition: a filter can be built with one, but none is read with one.
-/
namespace DocQuery

/-- Values that a constructor gives: from a value, from bounds, from items, or from conditions whose
own values were built so. -/
inductive FilterValue.Built : FilterValue → Prop where
  | value {v : Value} {w : FilterValue} (h : ofValue v = .ok w) : Built w
  | range {start stop : Value} {w : FilterValue} (h : FilterValue.range start stop = .ok w) : Built w
  | list {items : List Value} {w : FilterValue} (h : FilterValue.list items = .ok w) : Built w
  | conditions {filters : List Filter} {w : FilterValue} (h : ofConditions filters = .ok w)
      (hall : ∀ f ∈ filters, Built f.value) : Built w

/-- A filter whose own value is undefined, or that of a condition at any depth below it. -/
inductive Filter.HasUndefined : Filter → Prop where
  | here {f : Filter} (h : f.value.raw = .undefined) : HasUndefined f
  | inside {f g : Filter} {filters : List Filter} (hs : f.value.shape = .conditions filters)
      (hg : g ∈ filters) (h : HasUndefined g) : HasUndefined f

def FilterValue.HasUndefinedInside (w : FilterValue) : Prop :=
  ∃ filters, w.shape = .conditions filters ∧ ∃ f ∈ filters, f.HasUndefined

/-- A value is read again from what it was built from, or an undefined value in it is the reason that
it is not. -/
structure FilterValue.RoundTrips (w : FilterValue) : Prop where
  back : ¬ w.HasUndefinedInside → ofValue w.raw = .ok w
  lost : w.HasUndefinedInside → ofValue w.raw = .error (.invalidArgument .filter)

namespace Filter

variable {f : Filter} {d : Document} {filters : List Filter}

/-- No filter is read with an undefined value in it. -/
theorem not_takenFrom_of_hasUndefined (h : f.HasUndefined) : ¬ f.TakenFrom d := by
  induction h generalizing d with
  | here hraw => exact fun htaken => htaken.defined hraw
  | inside hs hg _ ih =>
    intro htaken
    obtain ⟨e, he⟩ := exists_takenFrom_of_mem_conditions htaken.classified hs hg
    exact ih he

theorem isTriple_document (f : Filter) : f.document.isTriple = true := by
  simp [document, Document.isTriple, Document.contains, Document.get?]

/-- A filter with a defined value is read from its document as far as its value is read. -/
theorem ofDocument_document (h : f.value.raw ≠ .undefined) :
    ofDocument f.document
      = (FilterValue.ofValue f.value.raw).map fun w => ⟨f.field, f.operator, w⟩ := by
  have hparts : f.document.HasParts (.string f.field.text) (.string f.operator.token) f.value.raw :=
    ⟨rfl, rfl, rfl, h⟩
  have hname : Name.ofValue .field (.string f.field.text) = .ok f.field :=
    Name.ofText_text .field f.field
  rw [ofDocument_of_hasParts hparts, Document.namedOperator_eq_ok_iff.mpr rfl, hname]
  rfl

theorem hasUndefined_iff :
    f.HasUndefined ↔ f.value.raw = .undefined ∨ f.value.HasUndefinedInside := by
  constructor
  · rintro (h | ⟨hs, hg, h⟩)
    · exact .inl h
    · exact .inr ⟨_, hs, _, hg, h⟩
  · rintro (h | ⟨_, hs, _, hg, h⟩)
    · exact .here h
    · exact .inside hs hg h

/-- Typed parts and a document of the same parts give the same filter, or fail alike. -/
theorem of_eq_ofDocument (field : String) (op : Operator) {v : Value} (h : v ≠ .undefined) :
    Filter.of field op v
      = ofDocument [("field", .string field), ("operator", .string op.token), ("value", v)] := by
  rw [ofDocument_of_hasParts ⟨rfl, rfl, rfl, h⟩, Document.namedOperator_eq_ok_iff.mpr rfl]
  rfl

theorem ofDocument_document_of_not_hasUndefined (h : f.value.RoundTrips) (hf : ¬ f.HasUndefined) :
    ofDocument f.document = .ok f := by
  rw [hasUndefined_iff, not_or] at hf
  rw [ofDocument_document hf.1, h.back hf.2]
  cases f
  rfl

theorem ofDocument_document_of_hasUndefined (h : f.value.RoundTrips) (hf : f.HasUndefined) :
    ofDocument f.document = .error (.invalidArgument .filter) := by
  by_cases hraw : f.value.raw = .undefined
  · exact ofDocument_of_lacksPart (.inr (.inr (.inr (congrArg some hraw))))
  · rw [ofDocument_document hraw, h.lost ((hasUndefined_iff.mp hf).resolve_left hraw)]
    rfl

end Filter

namespace FilterValue

variable {v : Value} {w : FilterValue} {filters : List Filter}

theorem roundTrips_of_ofValue (h : ofValue v = .ok w) : w.RoundTrips where
  back _ := by rw [raw_of_ofValue h, h]
  lost := by
    rintro ⟨filters, hs, f, hf, hundefined⟩
    obtain ⟨d, hd⟩ := Filter.exists_takenFrom_of_mem_conditions h hs hf
    exact absurd hd (Filter.not_takenFrom_of_hasUndefined hundefined)

theorem shape_of_ofConditions (h : ofConditions filters = .ok w) :
    w.shape = .conditions filters := by
  unfold ofConditions at h
  split at h
  · cases h
  · cases h
    rfl

/-- What conditions are made into is read again as what is read from their documents. -/
theorem ofValue_raw_of_ofConditions (h : ofConditions filters = .ok w) :
    ofValue w.raw = ((filters.map Filter.document).mapM Filter.ofDocument).map fun read =>
      ⟨w.canonical, w.raw, .conditions read⟩ := by
  unfold ofConditions at h
  split at h
  · cases h
  next hne =>
    cases h
    have hstarts : startsWithTriple (filters.map fun f => .document f.document) = true := by
      cases filters with
      | nil => simp at hne
      | cons f rest => exact f.isTriple_document
    have htriples : ∀ d ∈ filters.map Filter.document, Document.isTriple d = true := by
      simp [Filter.isTriple_document]
    have hitems := conditionsOf_documents 0 htriples
    rw [List.map_map] at hitems
    simp only [ofValue, if_pos hstarts]
    rw [← hitems]
    rfl

theorem roundTrips_of_ofConditions (h : ofConditions filters = .ok w)
    (hall : ∀ f ∈ filters, f.value.RoundTrips) : w.RoundTrips where
  back hdefined := by
    have hread : List.Forall₂ (fun d f => Filter.ofDocument d = .ok f)
        (filters.map Filter.document) filters := by
      rw [List.forall₂_map_left_iff, List.forall₂_same]
      intro f hf
      exact Filter.ofDocument_document_of_not_hasUndefined (hall f hf) fun hundefined =>
        hdefined ⟨filters, shape_of_ofConditions h, f, hf, hundefined⟩
    rw [ofValue_raw_of_ofConditions h, mapM_eq_ok_iff.mpr hread]
    have hs := shape_of_ofConditions h
    cases w
    cases hs
    rfl
  lost := by
    rintro ⟨_, hs, f, hf, hundefined⟩
    rw [shape_of_ofConditions h] at hs
    cases hs
    have herror : (filters.map Filter.document).mapM Filter.ofDocument
        = .error (.invalidArgument .filter) := by
      refine mapM_eq_error_iff.mpr (meets_of_exists ?_ ?_)
      · rw [List.forall_mem_map]
        intro g hg
        by_cases hgu : g.HasUndefined
        · exact .inl (Filter.ofDocument_document_of_hasUndefined (hall g hg) hgu)
        · exact .inr ⟨g, Filter.ofDocument_document_of_not_hasUndefined (hall g hg) hgu⟩
      · exact ⟨_, List.mem_map_of_mem hf,
          Filter.ofDocument_document_of_hasUndefined (hall f hf) hundefined⟩
    rw [ofValue_raw_of_ofConditions h, herror]
    rfl

theorem roundTrips_of_built (h : w.Built) : w.RoundTrips := by
  -- Only conditions hold values that were built before.
  induction h with
  | value h => exact roundTrips_of_ofValue h
  | range h => exact roundTrips_of_ofValue h
  | list h => exact roundTrips_of_ofValue h
  | conditions h _ ih => exact roundTrips_of_ofConditions h ih

/-- A filter of typed parts is the one that is read from a document of the same parts, or both fail
with the same error, where the value is defined. Conditions, whose values were built in any way, make
a value that is read again as it is exactly when no undefined value stands in them; if one does, the
reading says that a filter is invalid. -/
theorem constructors_agree :
    (∀ (field : String) (op : Operator) (v : Value), v ≠ .undefined →
      Filter.of field op v = Filter.ofDocument
        [("field", .string field), ("operator", .string op.token), ("value", v)])
    ∧ ∀ filters : List Filter, filters ≠ [] → (∀ f ∈ filters, f.value.Built) →
      ∃ w, ofConditions filters = .ok w ∧ (ofValue w.raw = .ok w ↔ ∀ f ∈ filters, ¬ f.HasUndefined)
        ∧ ((∃ f ∈ filters, f.HasUndefined) → ∃ cause : Invalid,
          ofValue w.raw = .error (.invalidArgument cause) ∧ cause.text = "The filter is invalid") := by
  refine ⟨fun field op v hv => Filter.of_eq_ofDocument field op hv, fun filters hne hbuilt => ?_⟩
  obtain ⟨w, hw⟩ : ∃ w, ofConditions filters = .ok w :=
    ⟨_, if_neg (by simpa using hne)⟩
  have htrips := roundTrips_of_built (.conditions hw hbuilt)
  have hlost : (∃ f ∈ filters, f.HasUndefined) → ofValue w.raw = .error (.invalidArgument .filter) :=
    fun hundefined => htrips.lost ⟨filters, shape_of_ofConditions hw, hundefined⟩
  refine ⟨w, hw, ⟨fun hback f hf hundefined => ?_, fun hall => ?_⟩,
    fun hundefined => ⟨.filter, hlost hundefined, rfl⟩⟩
  · rw [hlost ⟨f, hf, hundefined⟩] at hback
    cases hback
  · refine htrips.back ?_
    rintro ⟨_, hs, f, hf, hundefined⟩
    rw [shape_of_ofConditions hw] at hs
    cases hs
    exact hall f hf hundefined

def surname : Name := ⟨"surname", by decide⟩

def surnameIs (v : Value) : Filter := ⟨surname, .equal, ⟨v.naturalText, v, .scalar v⟩⟩

def surnameAnyOf (f : Filter) : Filter :=
  ⟨surname, .anyOf, ⟨(Value.array [.document f.document]).jsonText, .array [.document f.document],
    .conditions [f]⟩⟩

theorem built_surnameIs {v : Value} (h : ofValue v = .ok (surnameIs v).value) :
    (surnameIs v).value.Built := .value h

theorem built_surnameAnyOf {f : Filter} (h : f.value.Built) : (surnameAnyOf f).value.Built :=
  .conditions (show ofConditions [f] = _ from rfl) (by simpa using h)

/-- Below one more condition, a text is read again and an undefined value is not. -/
theorem constructors_agree_surname :
    (∃ w, ofConditions [surnameAnyOf (surnameIs (.string "Berg"))] = .ok w ∧ ofValue w.raw = .ok w)
    ∧ ∃ w, ofConditions [surnameIs (.string "Lund"), surnameAnyOf (surnameIs .undefined)] = .ok w
      ∧ ∃ cause : Invalid, ofValue w.raw = .error (.invalidArgument cause)
        ∧ cause.text = "The filter is invalid" := by
  have hberg := built_surnameAnyOf (built_surnameIs (show ofValue (.string "Berg") = _ from rfl))
  have hlund := built_surnameIs (show ofValue (.string "Lund") = _ from rfl)
  have hnone := built_surnameAnyOf (built_surnameIs (show ofValue .undefined = _ from rfl))
  obtain ⟨-, h⟩ := constructors_agree
  obtain ⟨w, hw, hback, -⟩ := h [surnameAnyOf (surnameIs (.string "Berg"))] (by simp)
    (by simpa using hberg)
  obtain ⟨w', hw', -, hlost⟩ := h [surnameIs (.string "Lund"), surnameAnyOf (surnameIs .undefined)]
    (by simp) (by simpa using ⟨hlund, hnone⟩)
  have hundefined : (surnameAnyOf (surnameIs .undefined)).HasUndefined :=
    .inside rfl (List.mem_singleton_self _) (.here rfl)
  refine ⟨⟨w, hw, hback.mpr ?_⟩, w', hw', hlost ⟨_, by simp, hundefined⟩⟩
  simp only [List.forall_mem_singleton]
  rintro (⟨⟨⟩⟩ | ⟨⟨⟩, hg, hinside⟩)
  cases List.mem_singleton.mp hg
  rcases hinside with ⟨⟨⟩⟩ | ⟨⟨⟩, -, -⟩

end FilterValue

end DocQuery
