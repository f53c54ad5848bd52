import DocQuery.Criteria.Filter
import DocQuery.Proofs.Outcome

/-!
Reading filters from documents. A filter takes its field, its operator and its value from the
document; the value is kept as it is and has one shape. The conditions of a value are filters that
are read from its items in the same way. Where this fails, the input is to blame.
-/
namespace DocQuery

def Error.IsInvalidArgument (e : Error) : Prop := ∃ cause, e = .invalidArgument cause

namespace Name

variable {role : NameRole}

theorem ofText_eq_ok_iff {text : String} {n : Name} : ofText role text = .ok n ↔ text = n.text := by
  constructor
  · intro h
    unfold ofText at h
    split at h
    · cases h
    · cases h
      rfl
  · rintro rfl
    exact ofText_text role n

theorem ofText_failsOnly (role : NameRole) (text : String) :
    FailsOnly Error.IsInvalidArgument (ofText role text) := by
  unfold ofText
  split
  · exact .error ⟨_, rfl⟩
  · exact .ok _

end Name

section Parts

namespace Document

variable {d : Document} {field operator v : Value}

theorem isTriple_iff : d.isTriple = true ↔ ∀ key ∈ ["field", "operator", "value"], key ∈ d.keys := by
  simp only [isTriple, List.all_eq_true, contains, Option.isSome_iff_ne_none, ne_eq,
    get?_eq_none_iff, not_not]

/-- The parts of a document that a filter is made of. An undefined value is none. -/
structure HasParts (d : Document) (field operator v : Value) : Prop where
  field : d.get? "field" = some field
  operator : d.get? "operator" = some operator
  value : d.get? "value" = some v
  defined : v ≠ .undefined

def LacksPart (d : Document) : Prop :=
  d.get? "field" = none ∨ d.get? "operator" = none ∨ d.get? "value" = none
    ∨ d.get? "value" = some .undefined

theorem hasParts_or_lacksPart (d : Document) :
    (∃ field operator v, d.HasParts field operator v) ∨ d.LacksPart := by
  unfold LacksPart
  cases hfield : d.get? "field" with
  | none => simp
  | some field =>
    cases hoperator : d.get? "operator" with
    | none => simp
    | some operator =>
      cases hvalue : d.get? "value" with
      | none => simp
      | some v =>
        by_cases hdefined : v = .undefined
        · simp [hdefined]
        · exact .inl ⟨field, operator, v, hfield, hoperator, hvalue, hdefined⟩

theorem HasParts.isTriple (h : d.HasParts field operator v) : d.isTriple = true := by
  simp [Document.isTriple, contains, h.field, h.operator, h.value]

def namedOperator : Value → Except Error Operator
  | .string token =>
    match Operator.ofToken? token with
    | some op => .ok op
    | none => .error (.invalidArgument (.operator token))
  | v => .error (.invalidArgument (.operator v.naturalText))

theorem namedOperator_eq_ok_iff {op : Operator} :
    namedOperator v = .ok op ↔ v = .string op.token := by
  cases v with
  | string token =>
    have hnamed : namedOperator (.string token) = .ok op ↔ Operator.ofToken? token = some op := by
      simp only [namedOperator]
      cases Operator.ofToken? token <;> simp
    rw [hnamed, Operator.ofToken?_eq_some_iff, Value.string.injEq, eq_comm]
  | _ => simp [namedOperator]

theorem namedOperator_failsOnly (v : Value) :
    FailsOnly Error.IsInvalidArgument (namedOperator v) := by
  cases v with
  | string token =>
    rw [namedOperator]
    split
    · exact .ok _
    · exact .error ⟨_, rfl⟩
  | _ => exact .error ⟨_, rfl⟩

/-- With all parts there, the operator is looked at before the field. -/
theorem HasParts.fieldAndOperator_eq (h : d.HasParts field operator v) :
    d.fieldAndOperator = do
      let op ← namedOperator operator
      return (← Name.ofValue .field field, op) := by
  unfold fieldAndOperator
  rw [h.field, h.operator, h.value]
  cases v with
  | undefined => exact absurd rfl h.defined
  | _ =>
    cases operator with
    | string token =>
      simp only [namedOperator]
      cases Operator.ofToken? token <;> rfl
    | _ => rfl

theorem LacksPart.fieldAndOperator_eq (h : d.LacksPart) :
    d.fieldAndOperator = .error (.invalidArgument .filter) := by
  unfold fieldAndOperator
  rcases h with h | h | h | h
  · rw [h]
    split <;> simp_all
  · rw [h]
    split <;> simp_all
  · rw [h]
  · rw [h]

theorem fieldAndOperator_failsOnly (d : Document) :
    FailsOnly Error.IsInvalidArgument d.fieldAndOperator := by
  rcases d.hasParts_or_lacksPart with ⟨field, operator, v, h⟩ | h
  · rw [h.fieldAndOperator_eq]
    refine (namedOperator_failsOnly operator).bind fun op => ?_
    exact (Name.ofText_failsOnly .field _).bind fun name => .ok _
  · rw [h.fieldAndOperator_eq]
    exact .error ⟨_, rfl⟩

end Document

namespace Filter

variable {d : Document} {field operator v : Value}

theorem ofDocument_of_hasParts (h : d.HasParts field operator v) :
    ofDocument d = do
      let op ← Document.namedOperator operator
      let name ← Name.ofValue .field field
      return ⟨name, op, ← FilterValue.ofValue v⟩ := by
  unfold ofDocument
  rw [h.fieldAndOperator_eq, FilterValue.ofEntry_eq, h.value]
  cases Document.namedOperator operator with
  | error e => rfl
  | ok op =>
    cases Name.ofValue .field field with
    | error e => rfl
    | ok name => rfl

theorem ofDocument_of_lacksPart (h : d.LacksPart) :
    ofDocument d = .error (.invalidArgument .filter) := by
  unfold ofDocument
  rw [h.fieldAndOperator_eq]
  rfl

theorem isTriple_of_ofDocument {f : Filter} (h : ofDocument d = .ok f) : d.isTriple = true := by
  rcases d.hasParts_or_lacksPart with ⟨field, operator, v, hparts⟩ | hlacks
  · exact hparts.isTriple
  · rw [ofDocument_of_lacksPart hlacks] at h
    cases h

end Filter

end Parts

section Failure

namespace FilterValue

mutual
theorem ofValue_failsOnly (v : Value) : FailsOnly Error.IsInvalidArgument (ofValue v) := by
  cases v with
  | array items =>
    rw [ofValue]
    split
    · exact (conditionsOf_failsOnly 0 items).bind fun filters => .ok _
    · exact .ok _
  | document d =>
    rw [ofValue]
    split
    · exact .ok _
    · exact .ok _
  | _ => exact .ok _

theorem conditionsOf_failsOnly (index : Nat) (items : List Value) :
    FailsOnly Error.IsInvalidArgument (conditionsOf index items) := by
  match items with
  | [] => exact .ok []
  | v :: rest =>
    cases v with
    | document d =>
      rw [conditionsOf]
      split
      · refine (Document.fieldAndOperator_failsOnly d).bind fun head => ?_
        refine (ofEntry_failsOnly d).bind fun value => ?_
        exact (conditionsOf_failsOnly (index + 1) rest).bind fun filters => .ok _
      · exact .error ⟨_, rfl⟩
    | _ => exact .error ⟨_, rfl⟩

theorem ofEntry_failsOnly (entries : List (String × Value)) :
    FailsOnly Error.IsInvalidArgument (ofEntry entries) := by
  match entries with
  | [] => exact .error ⟨_, rfl⟩
  | (k, v) :: rest =>
    rw [ofEntry]
    split
    · exact ofValue_failsOnly v
    · exact ofEntry_failsOnly rest
end

end FilterValue

theorem Filter.ofDocument_failsOnly (d : Document) :
    FailsOnly Error.IsInvalidArgument (ofDocument d) :=
  (Document.fieldAndOperator_failsOnly d).bind fun _ =>
    (FilterValue.ofEntry_failsOnly d).bind fun _ => .ok _

end Failure

section Shapes

def Value.Reads (v : Value) (f : Filter) : Prop :=
  ∃ d, v = .document d ∧ Filter.ofDocument d = .ok f

inductive Shape.Fits : Value → Shape → Prop where
  | conditions {items : List Value} {filters : List Filter} (h : startsWithTriple items = true)
      (hitems : List.Forall₂ Value.Reads items filters) :
      Fits (.array items) (.conditions filters)
  | list {items : List Value} (h : startsWithTriple items = false) :
      Fits (.array items) (.list items)
  | range {d : Document} {start stop : Value} (h : Document.range? d = some (start, stop)) :
      Fits (.document d) (.range start stop)
  | scalar {v : Value} (harray : ∀ items, v ≠ .array items)
      (hrange : ∀ d, v = .document d → Document.range? d = none) : Fits v (.scalar v)

namespace FilterValue

variable {v : Value} {w : FilterValue} {s t : Shape} {items : List Value} {filters : List Filter}
  {index : Nat}

def conditionAt (index : Nat) : Value → Except Error Filter
  | .document d =>
    if Document.isTriple d then Filter.ofDocument d
    else .error (.invalidArgument (.condition index))
  | _ => .error (.invalidArgument (.condition index))

theorem conditionsOf_cons (index : Nat) (v : Value) (rest : List Value) :
    conditionsOf index (v :: rest) = do
      let f ← conditionAt index v
      return f :: (← conditionsOf (index + 1) rest) := by
  cases v with
  | document d =>
    rw [conditionsOf, conditionAt]
    split
    · unfold Filter.ofDocument
      cases Document.fieldAndOperator d with
      | error e => rfl
      | ok head => cases ofEntry d <;> rfl
    · rfl
  | _ => rfl

theorem conditionAt_eq_ok_iff {f : Filter} : conditionAt index v = .ok f ↔ v.Reads f := by
  unfold Value.Reads
  cases v with
  | document d =>
    simp only [conditionAt, Value.document.injEq, exists_eq_left']
    constructor
    · intro h
      split at h
      · exact h
      · cases h
    · intro h
      rw [if_pos (Filter.isTriple_of_ofDocument h), h]
  | _ => simp [conditionAt]

/-- Conditions are read from their items, one from each. -/
theorem conditionsOf_eq_ok_iff :
    conditionsOf index items = .ok filters ↔ List.Forall₂ Value.Reads items filters := by
  induction items generalizing index filters with
  | nil => simp [conditionsOf, eq_comm]
  | cons v rest ih =>
    rw [conditionsOf_cons, List.forall₂_cons_left_iff]
    simp only [bind_eq_ok_iff, ih, conditionAt_eq_ok_iff, pure, Except.pure, Except.ok.injEq]
    grind

/-- Items with the keys of filters are read like filters that stand alone. -/
theorem conditionsOf_documents (index : Nat) {ds : List Document} (h : ∀ d ∈ ds, d.isTriple = true) :
    conditionsOf index (ds.map .document) = ds.mapM Filter.ofDocument := by
  induction ds generalizing index with
  | nil => rfl
  | cons d rest ih =>
    rw [List.forall_mem_cons] at h
    rw [List.map_cons, conditionsOf_cons, List.mapM_cons, conditionAt, if_pos h.1, ih _ h.2]

theorem raw_of_ofValue (h : ofValue v = .ok w) : w.raw = v := by
  cases v with
  | array items =>
    rw [ofValue] at h
    split at h
    · obtain ⟨filters, -, hw⟩ := bind_eq_ok_iff.mp h
      cases hw
      rfl
    · cases h
      rfl
  | document d =>
    rw [ofValue] at h
    split at h <;> (cases h; rfl)
  | _ =>
    cases h
    rfl

theorem fits_of_ofValue (h : ofValue v = .ok w) : w.shape.Fits v := by
  cases v with
  | array items =>
    rw [ofValue] at h
    split at h
    next hstarts =>
      obtain ⟨filters, hitems, hw⟩ := bind_eq_ok_iff.mp h
      cases hw
      exact .conditions hstarts (conditionsOf_eq_ok_iff.mp hitems)
    next hstarts =>
      cases h
      exact .list (Bool.eq_false_iff.mpr hstarts)
  | document d =>
    rw [ofValue] at h
    split at h
    next start stop hrange =>
      cases h
      exact .range hrange
    next hrange =>
      cases h
      exact .scalar nofun fun d' hd => by
        cases hd
        exact hrange
  | _ =>
    cases h
    exact .scalar nofun nofun

theorem exists_ofValue_of_fits (h : s.Fits v) : ∃ w, ofValue v = .ok w ∧ w.shape = s := by
  cases h with
  | @conditions items filters hstarts hitems =>
    refine ⟨⟨(Value.array items).jsonText, .array items, .conditions filters⟩, ?_, rfl⟩
    rw [ofValue, if_pos hstarts, conditionsOf_eq_ok_iff.mpr hitems]
    rfl
  | @list items hstarts =>
    refine ⟨⟨",".intercalate (items.map Value.naturalText), .array items, .list items⟩, ?_, rfl⟩
    rw [ofValue, if_neg (by simp [hstarts])]
  | @range d start stop hrange =>
    refine ⟨⟨(Value.document d).jsonText, .document d, .range start stop⟩, ?_, rfl⟩
    rw [ofValue, hrange]
  | scalar harray hrange =>
    refine ⟨⟨v.naturalText, v, .scalar v⟩, ?_, rfl⟩
    cases v with
    | array items => exact absurd rfl (harray items)
    | document d => rw [ofValue, hrange d rfl]
    | _ => rfl

theorem fits_unique (hs : s.Fits v) (ht : t.Fits v) : s = t := by
  obtain ⟨w, hw, rfl⟩ := exists_ofValue_of_fits hs
  obtain ⟨w', hw', rfl⟩ := exists_ofValue_of_fits ht
  rw [hw] at hw'
  cases hw'
  rfl

end FilterValue

end Shapes

structure Filter.TakenFrom (f : Filter) (d : Document) : Prop where
  field : ∃ v, d.get? "field" = some v ∧ v.naturalText = f.field.text
  operator : d.get? "operator" = some (.string f.operator.token)
  value : d.get? "value" = some f.value.raw
  defined : f.value.raw ≠ .undefined
  classified : FilterValue.ofValue f.value.raw = .ok f.value

namespace Filter

variable {d : Document} {f : Filter}

theorem ofDocument_eq_ok_iff : ofDocument d = .ok f ↔ f.TakenFrom d := by
  constructor
  · intro h
    rcases d.hasParts_or_lacksPart with ⟨field, operator, v, hparts⟩ | hlacks
    · rw [ofDocument_of_hasParts hparts] at h
      obtain ⟨op, hop, h⟩ := bind_eq_ok_iff.mp h
      obtain ⟨name, hname, h⟩ := bind_eq_ok_iff.mp h
      obtain ⟨w, hw, h⟩ := bind_eq_ok_iff.mp h
      cases h
      have hraw : w.raw = v := FilterValue.raw_of_ofValue hw
      subst hraw
      have hoperator := hparts.operator
      rw [Document.namedOperator_eq_ok_iff.mp hop] at hoperator
      exact ⟨⟨field, hparts.field, Name.ofText_eq_ok_iff.mp hname⟩, hoperator, hparts.value,
        hparts.defined, hw⟩
    · rw [ofDocument_of_lacksPart hlacks] at h
      cases h
  · rintro ⟨⟨field, hfield, hname⟩, hoperator, hvalue, hdefined, hclassified⟩
    cases f
    rw [ofDocument_of_hasParts ⟨hfield, hoperator, hvalue, hdefined⟩,
      Document.namedOperator_eq_ok_iff.mpr rfl, Name.ofValue, Name.ofText_eq_ok_iff.mpr hname,
      hclassified]
    rfl

theorem exists_takenFrom_of_mem_conditions {v : Value} {w : FilterValue} {filters : List Filter}
    (h : FilterValue.ofValue v = .ok w) (hs : w.shape = .conditions filters) (hf : f ∈ filters) :
    ∃ e, f.TakenFrom e := by
  have hfits := FilterValue.fits_of_ofValue h
  rw [hs] at hfits
  cases hfits with
  | conditions _ hitems =>
    obtain ⟨_, -, e, -, he⟩ := exists_mem_of_forall₂ hitems.flip hf
    exact ⟨e, ofDocument_eq_ok_iff.mp he⟩

end Filter

end DocQuery
