import DocQuery.Proofs.Bson.NaturalText
import DocQuery.Proofs.Criteria.Reading

/-!
Which documents filters are read from. Validity is said of documents alone, with no word about how
they are read: a document is valid by its three parts, and a value is at fault only where it lists
filters and one of its items is not valid in turn.
-/
namespace DocQuery

/-- An array whose first item is a document with the keys of a filter. -/
def Value.ListsFilters (v : Value) (items : List Value) : Prop :=
  v = .array items ∧ ∃ first rest, items = .document first :: rest
    ∧ ∀ key ∈ ["field", "operator", "value"], key ∈ Document.keys first

/-- A document with the parts of a filter. Any value but an empty text names its field; where its
value lists filters, each of them is such a document. -/
inductive Document.ValidTriple : Document → Prop where
  | intro {d : Document} {field v : Value} {op : Operator} (hfield : d.get? "field" = some field)
      (hname : field ≠ .string "" ∧ field ≠ .symbol "")
      (hoperator : d.get? "operator" = some (.string op.token))
      (hvalue : d.get? "value" = some v) (hdefined : v ≠ .undefined)
      (hdocuments : ∀ items, v.ListsFilters items → ∀ x ∈ items, ∃ e, x = .document e)
      (hitems : ∀ items, v.ListsFilters items → ∀ e, .document e ∈ items → ValidTriple e) :
      ValidTriple d

theorem startsWithTriple_iff {items : List Value} : startsWithTriple items = true
    ↔ ∃ first rest, items = .document first :: rest
      ∧ ∀ key ∈ ["field", "operator", "value"], key ∈ Document.keys first := by
  cases items with
  | nil => simp [startsWithTriple]
  | cons v rest =>
    cases v with
    | document d =>
      rw [startsWithTriple, Document.isTriple_iff]
      simp
    | _ => simp [startsWithTriple]

namespace FilterValue

variable {v : Value} {w : FilterValue} {items : List Value}

/-- Only a list of filters can have no shape. -/
theorem exists_fits (h : ∀ items, v.ListsFilters items → ∀ x ∈ items, ∃ f, x.Reads f) :
    ∃ s : Shape, s.Fits v := by
  cases v with
  | array items =>
    by_cases hstarts : startsWithTriple items = true
    · have hread := h items ⟨rfl, startsWithTriple_iff.mp hstarts⟩
      obtain ⟨filters, hitems⟩ := exists_forall₂_iff.mpr hread
      exact ⟨.conditions filters, .conditions hstarts hitems⟩
    · exact ⟨.list items, .list (Bool.eq_false_iff.mpr hstarts)⟩
  | document d =>
    cases hrange : Document.range? d with
    | none =>
      refine ⟨.scalar (.document d), .scalar nofun fun d' hd => ?_⟩
      cases hd
      exact hrange
    | some bounds => exact ⟨.range bounds.1 bounds.2, .range hrange⟩
  | _ => exact ⟨_, .scalar nofun nofun⟩

theorem exists_conditions (h : ofValue v = .ok w) (hlists : v.ListsFilters items) :
    ∃ filters, w.shape = .conditions filters ∧ List.Forall₂ Value.Reads items filters := by
  obtain ⟨rfl, hfirst⟩ := hlists
  have hstarts := startsWithTriple_iff.mpr hfirst
  have hfits := fits_of_ofValue h
  generalize w.shape = s at hfits ⊢
  cases hfits with
  | conditions _ hitems => exact ⟨_, rfl, hitems⟩
  | list hlist => simp [hstarts] at hlist
  | scalar harray => exact absurd rfl (harray items)

end FilterValue

namespace Filter

variable {d : Document}

theorem sizeOf_lt_of_mem_conditions {f g : Filter} {filters : List Filter}
    (h : f.value.shape = .conditions filters) (hg : g ∈ filters) : sizeOf g < sizeOf f := by
  obtain ⟨field, operator, canonical, raw, shape⟩ := f
  cases h
  have hlt := List.sizeOf_lt_of_mem hg
  simp only [mk.sizeOf_spec, FilterValue.mk.sizeOf_spec, Shape.conditions.sizeOf_spec]
  omega

-- The recursion is on the filter, which is larger than each of its conditions.
theorem validTriple_of_takenFrom (f : Filter) {d : Document} (h : f.TakenFrom d) :
    d.ValidTriple := by
  obtain ⟨field, hfield, htext⟩ := h.field
  have hname : ¬ (field = .string "" ∨ field = .symbol "") := by
    rw [← Value.naturalText_eq_empty_iff, htext]
    exact f.field.nonempty
  have hread : ∀ items, f.value.raw.ListsFilters items → ∀ x ∈ items,
      ∃ e, x = .document e ∧ Document.ValidTriple e := by
    intro items hlists x hx
    obtain ⟨filters, hs, hitems⟩ := FilterValue.exists_conditions h.classified hlists
    obtain ⟨g, hg, e, rfl, he⟩ := exists_mem_of_forall₂ hitems hx
    have hsmaller := sizeOf_lt_of_mem_conditions hs hg
    exact ⟨e, rfl, validTriple_of_takenFrom g (ofDocument_eq_ok_iff.mp he)⟩
  refine .intro hfield (not_or.mp hname) h.operator h.value h.defined ?_ ?_
  · intro items hlists x hx
    obtain ⟨e, he, -⟩ := hread items hlists x hx
    exact ⟨e, he⟩
  · intro items hlists e he
    obtain ⟨e', hee, hvalid⟩ := hread items hlists _ he
    cases hee
    exact hvalid
termination_by sizeOf f

theorem exists_ofDocument_of_validTriple (h : d.ValidTriple) : ∃ f, ofDocument d = .ok f := by
  induction h with
  | @intro d field v op hfield hname hoperator hvalue hdefined hdocuments hitems ih =>
    have hnonempty : field.naturalText ≠ "" := by
      rw [Ne, Value.naturalText_eq_empty_iff, not_or]
      exact hname
    obtain ⟨s, hs⟩ : ∃ s : Shape, s.Fits v := by
      refine FilterValue.exists_fits fun items hlists x hx => ?_
      obtain ⟨e, rfl⟩ := hdocuments items hlists x hx
      obtain ⟨f, hf⟩ := ih items hlists e hx
      exact ⟨f, e, rfl, hf⟩
    obtain ⟨w, hw, -⟩ := FilterValue.exists_ofValue_of_fits hs
    have hraw := FilterValue.raw_of_ofValue hw
    subst hraw
    exact ⟨⟨⟨field.naturalText, hnonempty⟩, op, w⟩, ofDocument_eq_ok_iff.mpr
      ⟨⟨field, hfield, rfl⟩, hoperator, hvalue, hdefined, hw⟩⟩

theorem exists_ofDocument_iff : (∃ f, ofDocument d = .ok f) ↔ d.ValidTriple := by
  constructor
  · rintro ⟨f, h⟩
    exact validTriple_of_takenFrom f (ofDocument_eq_ok_iff.mp h)
  · exact exists_ofDocument_of_validTriple

/-- Documents are read as filters exactly when all of them are valid. They then give one filter each,
in their order, and its value is the one that stands in the document, with the one shape that it has.
Otherwise the error is the one that the first document that is not valid gives when it is read alone,
and it blames the input. -/
theorem documents_read_iff_valid (docs : List Document) :
    ((∃ filters, docs.mapM ofDocument = .ok filters) ↔ ∀ d ∈ docs, d.ValidTriple)
    ∧ (∀ filters, docs.mapM ofDocument = .ok filters →
      List.Forall₂ (fun d f => f.TakenFrom d ∧ f.value.shape.Fits f.value.raw
        ∧ ∀ s : Shape, s.Fits f.value.raw → s = f.value.shape) docs filters)
    ∧ (∀ e, docs.mapM ofDocument = .error e
      ↔ Meets (fun d => ¬ d.ValidTriple ∧ ofDocument d = .error e) Document.ValidTriple docs)
    ∧ ∀ e, docs.mapM ofDocument = .error e → ∃ cause, e = .invalidArgument cause := by
  refine ⟨?_, fun filters h => ?_, fun e => ?_, fun e h => ?_⟩
  · simp only [exists_mapM_eq_ok_iff, exists_ofDocument_iff]
  · refine (mapM_eq_ok_iff.mp h).imp fun d f hf => ?_
    have htaken := ofDocument_eq_ok_iff.mp hf
    have hfits := FilterValue.fits_of_ofValue htaken.classified
    exact ⟨htaken, hfits, fun s hs => FilterValue.fits_unique hs hfits⟩
  · have hstops : (fun d => ¬ Document.ValidTriple d ∧ ofDocument d = .error e)
        = fun d => ofDocument d = .error e := by
      funext d
      refine propext ⟨And.right, fun h => ⟨fun hvalid => ?_, h⟩⟩
      obtain ⟨f, hf⟩ := exists_ofDocument_iff.mpr hvalid
      rw [h] at hf
      cases hf
    have hpasses : Document.ValidTriple = fun d => ∃ f, ofDocument d = .ok f :=
      funext fun d => propext exists_ofDocument_iff.symm
    rw [hstops, hpasses, mapM_eq_error_iff]
  · obtain ⟨before, d, after, -, -, hd⟩ := mapM_eq_error_iff.mp h
    exact ofDocument_failsOnly d e hd

/-- A field may be named by a truth value, and a list of conditions by a number. -/
def bornInOslo : Document :=
  [("field", .boolean true), ("operator", .string "="), ("value", .string "Oslo")]

def bornNearOslo : Document :=
  [("field", .string ""), ("operator", .string "NEAR"), ("value", .string "Oslo")]

def eitherOf (items : List Document) : Document :=
  [("field", .int32 7), ("operator", .string "OR"), ("value", .array (items.map .document))]

/-- A list of conditions is read; with one more, whose operator is none, it is not. -/
theorem documents_read_iff_valid_bornNearOslo :
    (∃ filters, [bornInOslo, eitherOf [bornInOslo]].mapM ofDocument = .ok filters
      ∧ List.Forall₂ (fun d f => f.TakenFrom d) [bornInOslo, eitherOf [bornInOslo]] filters)
    ∧ [bornInOslo, eitherOf [bornInOslo, bornNearOslo]].mapM ofDocument
      = .error (.invalidArgument (.operator "NEAR"))
    ∧ ¬ ∀ d ∈ [bornInOslo, eitherOf [bornInOslo, bornNearOslo]], d.ValidTriple := by
  have hinner : bornInOslo.ValidTriple :=
    @Document.ValidTriple.intro _ _ _ .equal rfl ⟨nofun, nofun⟩ rfl rfl nofun
      (fun _ h => nomatch h.1) (fun _ h => nomatch h.1)
  have houter : (eitherOf [bornInOslo]).ValidTriple := by
    refine @Document.ValidTriple.intro _ _ _ .anyOf rfl ⟨nofun, nofun⟩ rfl rfl nofun ?_ ?_
    · rintro _ ⟨⟨⟩, -⟩ x hx
      exact ⟨bornInOslo, List.mem_singleton.mp hx⟩
    · rintro _ ⟨⟨⟩, -⟩ e he
      cases List.mem_singleton.mp he
      exact hinner
  obtain ⟨hread, htaken, -, -⟩ := documents_read_iff_valid [bornInOslo, eitherOf [bornInOslo]]
  obtain ⟨filters, hfilters⟩ := hread.mpr (by simp [hinner, houter])
  have herror : [bornInOslo, eitherOf [bornInOslo, bornNearOslo]].mapM ofDocument
      = .error (.invalidArgument (.operator "NEAR")) := rfl
  obtain ⟨hnear, -, -, -⟩ :=
    documents_read_iff_valid [bornInOslo, eitherOf [bornInOslo, bornNearOslo]]
  refine ⟨⟨filters, hfilters, (htaken filters hfilters).imp fun d f h => h.1⟩, herror, fun hall => ?_⟩
  obtain ⟨_, hok⟩ := hnear.mpr hall
  rw [herror] at hok
  cases hok

end Filter

end DocQuery
