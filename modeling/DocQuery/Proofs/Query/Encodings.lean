import DocQuery.Proofs.Criteria.RoundTrip
import DocQuery.Proofs.Query.Overwritten
import DocQuery.Proofs.Query.OwnValue
import DocQuery.Proofs.Query.Refusal
import Mathlib

/-!
What the encoding of scalars changes in a compiled query: the arguments of comparisons, which are
texts under one encoding and keep their types under the other. Patterns, the bounds of a range and
the items of a list are not touched, nor is the shape of the predicate.
-/
namespace DocQuery

def Operator.comparison? : Operator → Option String
  | equal => some "$eq"
  | notEqual => some "$ne"
  | greater => some "$gt"
  | greaterOrEqual => some "$gte"
  | less => some "$lt"
  | lessOrEqual => some "$lte"
  | contains | notContains | between | anyOf | oneOf | noneOf => none

section Built

namespace FilterValue

variable {v : Value} {w : FilterValue} {filters : List Filter} {f : Filter}

theorem canonical_of_isScalar (h : ofValue v = .ok w) (hv : v.isScalar = true) :
    w.canonical = v.naturalText := by
  cases v with
  | array items => cases hv
  | document d =>
    have hrange : Document.range? d = none := Option.isNone_iff_eq_none.mp hv
    rw [ofValue, hrange] at h
    cases h
    rfl
  | _ =>
    cases h
    rfl

theorem canonical_of_ofValue (h : ofValue v = .ok w) :
    w.canonical = (w.argument .typed).naturalText := by
  rw [argument_typed h]
  split
  next hv => exact canonical_of_isScalar h hv
  next => simp [Value.naturalText]

/-- A value is built by classification, or from conditions with built values. -/
theorem Built.origin (h : w.Built) : (∃ v, ofValue v = .ok w)
    ∨ ∃ filters, ofConditions filters = .ok w ∧ ∀ f ∈ filters, f.value.Built := by
  cases h with
  | value h => exact .inl ⟨_, h⟩
  | range h => exact .inl ⟨_, h⟩
  | list h => exact .inl ⟨_, h⟩
  | conditions h hall => exact .inr ⟨_, h, hall⟩

/-- The text of a value is that of its argument, whatever type this keeps. -/
theorem Built.canonical (h : w.Built) : w.canonical = (w.argument .typed).naturalText := by
  rcases h.origin with ⟨v, h⟩ | ⟨filters, h, -⟩
  · exact canonical_of_ofValue h
  · have hshape := shape_of_ofConditions h
    rw [argument_typed_of_not_scalar (by simp [hshape]), Value.naturalText]

theorem Built.condition (h : w.Built) (hs : w.shape = .conditions filters) (hf : f ∈ filters) :
    f.value.Built := by
  rcases h.origin with ⟨v, h⟩ | ⟨_, h, hall⟩
  · obtain ⟨d, hd⟩ := Filter.exists_takenFrom_of_mem_conditions h hs hf
    exact .value hd.classified
  · rw [shape_of_ofConditions h] at hs
    cases hs
    exact hall f hf

theorem Built.argument_of_string {s : String} (h : w.Built) (hraw : w.raw = .string s) :
    w.argument .typed = .string s := by
  rcases h.origin with ⟨v, h⟩ | ⟨filters, h, -⟩
  · have hv : v = .string s := (raw_of_ofValue h).symm.trans hraw
    rw [argument_typed h, hv]
    rfl
  · unfold ofConditions at h
    split at h
    · cases h
    · cases h
      cases hraw

end FilterValue

end Built

/-- The two conditions that a simple operator has under the canonical and the typed encoding. The
argument of a comparison is its natural text under the one and is itself under the other. -/
inductive Operator.Encodes (op : Operator) (v : FilterValue) : Document → Document → Prop where
  | compares {key : String} {a : Value} (hkey : op.comparison? = some key)
    (ha : a = v.argument .typed) : Encodes op v [(key, .string a.naturalText)] [(key, a)]
  | searches {condition : Document} (hop : op.isSearch = true)
    (hc : ∀ encoding, op.condition? v encoding = some condition) : Encodes op v condition condition

def Filter.EncodesBranch (f : Filter) (b b' : Document) : Prop :=
  ∃ p q, f.operator.Encodes f.value p q
    ∧ b = [(f.field.text, .document p)] ∧ b' = [(f.field.text, .document q)]

/-- The two fragments that a filter has. -/
inductive Filter.Encodes (f : Filter) : Fragment → Fragment → Prop where
  | simple {p q : Document} (h : f.operator.Encodes f.value p q) :
    Encodes f ⟨f.field.text, .document p⟩ ⟨f.field.text, .document q⟩
  | same {g : Fragment} (hop : f.operator = .between ∨ f.operator = .oneOf ∨ f.operator = .noneOf)
    (hg : ∀ encoding, f.fragment encoding = .ok g) : Encodes f g g
  | anyOf {filters : List Filter} {branches : List (Document × Document)}
    (hop : f.operator = .anyOf) (hs : f.value.shape = .conditions filters)
    (hb : List.Forall₂ (fun c b => c.EncodesBranch b.1 b.2) filters branches) :
    Encodes f ⟨"$or", .array ((branches.map Prod.fst).map .document)⟩
      ⟨"$or", .array ((branches.map Prod.snd).map .document)⟩

def Filter.ComparesTexts (f : Filter) : Prop :=
  ∀ c ∈ f.leaves, c.operator.comparison?.isSome = true → ∃ s, c.value.raw = .string s

section Encodes

variable {f : Filter} {g g' : Fragment} {p q : Document}

theorem Operator.rel_condition? (op : Operator) {v : FilterValue} (hv : v.Built) :
    Option.Rel (op.Encodes v) (op.condition? v .canonical) (op.condition? v .typed) := by
  have hcanonical : v.argument .canonical = .string (v.argument .typed).naturalText :=
    congrArg Value.string hv.canonical
  have hcompares {key : String} (hkey : op.comparison? = some key) :
      op.Encodes v [(key, v.argument .canonical)] [(key, v.argument .typed)] := by
    rw [hcanonical]
    exact .compares hkey rfl
  cases op with
  | equal | notEqual | greater | greaterOrEqual | less | lessOrEqual => exact .some (hcompares rfl)
  | contains | notContains => exact .some (.searches rfl fun _ => rfl)
  | between | anyOf | oneOf | noneOf => exact .none

namespace Filter

theorem branch_goTogether (hv : f.value.Built) :
    GoTogether f.EncodesBranch (f.branch .canonical) (f.branch .typed) := by
  have hcondition := f.operator.rel_condition? hv
  unfold branch
  generalize f.operator.condition? f.value .canonical = p, f.operator.condition? f.value .typed = q
    at hcondition
  cases hcondition with
  | none => exact .error _
  | some h => exact .ok ⟨_, _, h, rfl, rfl⟩

theorem conditionsFragment_goTogether (hop : f.operator = .anyOf) (hv : f.value.Built) :
    GoTogether f.Encodes (f.conditionsFragment .canonical) (f.conditionsFragment .typed) := by
  unfold conditionsFragment FilterValue.conditions
  cases hs : f.value.shape with
  | conditions filters =>
    have hbranches := GoTogether.mapM (l := filters) fun c hc =>
      branch_goTogether (hv.condition hs hc)
    refine hbranches.map fun bs bs' hpairs => ?_
    obtain ⟨pairs, hpairs, rfl, rfl⟩ := hpairs
    exact .anyOf hop hs hpairs
  | scalar v | list items | range start stop => exact .error _

/-- What does not look at the encoding is the same under both. -/
theorem goTogether_same (hop : f.operator = .between ∨ f.operator = .oneOf ∨ f.operator = .noneOf)
    {x : Except Error Fragment} (hx : ∀ encoding, f.fragment encoding = x) :
    GoTogether f.Encodes x x := by
  refine .same fun g hg => .same hop fun encoding => ?_
  rw [hx encoding, hg]

/-- A filter has two fragments that differ in arguments only, or none for the same reason. -/
theorem fragment_goTogether (hv : f.value.Built) :
    GoTogether f.Encodes (f.fragment .canonical) (f.fragment .typed) := by
  have hcondition := f.operator.rel_condition? hv
  unfold fragment
  split
  next hop => exact goTogether_same (.inl hop) fun encoding => by rw [fragment, hop]
  next hop => exact conditionsFragment_goTogether hop hv
  next hop => exact goTogether_same (.inr (.inl hop)) fun encoding => by rw [fragment, hop]
  next hop => exact goTogether_same (.inr (.inr hop)) fun encoding => by rw [fragment, hop]
  next =>
    generalize f.operator.condition? f.value .canonical = p,
      f.operator.condition? f.value .typed = q at hcondition
    cases hcondition with
    | none => exact .error _
    | some h => exact .ok (.simple h)

end Filter

theorem Operator.Encodes.eq_of_text (h : f.operator.Encodes f.value p q) (hv : f.value.Built)
    (htext : f.operator.comparison?.isSome = true → ∃ s, f.value.raw = .string s) : p = q := by
  cases h with
  | searches hop hc => rfl
  | compares hkey ha =>
    obtain ⟨s, hs⟩ := htext (by simp [hkey])
    rw [ha, hv.argument_of_string hs, Value.naturalText]

namespace Filter

theorem Encodes.key_eq (h : f.Encodes g g') : g.key = g'.key := by
  cases h with
  | simple h | same hop hg | anyOf hop hs hb => rfl

theorem Encodes.key (h : f.Encodes g g') : g.key = f.key := by
  cases h with
  | simple h =>
    have hop : f.operator ≠ .anyOf := by
      intro hop
      cases h with
      | compares hkey ha => simp [hop, Operator.comparison?] at hkey
      | searches hsearch hc => simp [hop, Operator.isSearch] at hsearch
    simp [Filter.key, hop]
  | same hop hg => exact key_of_fragment (hg .typed)
  | anyOf hop hs hb => simp [Filter.key, hop]

theorem Encodes.eq_of_comparesTexts (h : f.Encodes g g') (hv : f.value.Built)
    (htexts : f.ComparesTexts) : g = g' := by
  cases h with
  | same hop hg => rfl
  | simple h =>
    have hcomparison : f.operator.comparison?.isSome = true → ∃ s, f.value.raw = .string s := by
      intro hsome
      have hop : f.operator ≠ .anyOf := fun hop => by simp [hop, Operator.comparison?] at hsome
      exact htexts f (by simp [leaves_of_ne hop]) hsome
    rw [h.eq_of_text hv hcomparison]
  | @anyOf filters branches hop hs hb =>
    rw [ComparesTexts, leaves_of_conditions hop hs] at htexts
    have hsame : branches.map Prod.fst = branches.map Prod.snd := by
      refine List.map_congr_left fun b hbranch => ?_
      obtain ⟨c, hc, p, q, h, hfirst, hsecond⟩ := exists_mem_of_forall₂ hb.flip hbranch
      rw [hfirst, hsecond, h.eq_of_text (hv.condition hs hc) (htexts c hc)]
    rw [hsame]

end Filter

end Encodes

namespace Conversion

/-- Two conversions of the same filters that differ in the arguments of comparisons only. -/
structure DifferInArguments (policy : MergePolicy) (filters : List Filter) (v w : Conversion) :
    Prop where
  event : v.event = w.event
  sort : v.query.sort = w.query.sort
  skip : v.query.skip = w.query.skip
  limit : v.query.limit = w.query.limit
  /-- The filters that are kept have fragments in their order, which are joined in the same way. -/
  predicates : ∃ pairs : List (Fragment × Fragment),
    List.Forall₂ (fun f g => f.Encodes g.1 g.2) (policy.kept Filter.key filters) pairs
      ∧ v.query.predicate = policy.join (pairs.map fun g => g.1.entry)
      ∧ w.query.predicate = policy.join (pairs.map fun g => g.2.entry)
  texts : (∀ f ∈ filters, f.ComparesTexts) → v = w

variable {c : Config} {criteria : Criteria} {m m' : Merged} {pairs : List (Fragment × Fragment)}

theorem differInArguments_ofMerged (hbuilt : ∀ f ∈ criteria.filters, f.value.Built)
    (hpairs : List.Forall₂ (fun f g => f.Encodes g.1 g.2) criteria.filters pairs)
    (hm : m = if (pairs.map Prod.fst).isEmpty then .empty
      else .ofFragments c.merge (pairs.map Prod.fst))
    (hm' : m' = if (pairs.map Prod.snd).isEmpty then .empty
      else .ofFragments c.merge (pairs.map Prod.snd)) :
    DifferInArguments c.merge criteria.filters
      (ofMerged m { c with encoding := .canonical } criteria)
      (ofMerged m' { c with encoding := .typed } criteria) := by
  have hkey : ∀ g ∈ pairs, g.1.key = g.2.key := by
    intro g hg
    obtain ⟨f, -, hf⟩ := exists_mem_of_forall₂ hpairs.flip hg
    exact Filter.Encodes.key_eq hf
  have hkept : List.Forall₂ (fun f g => f.Encodes g.1 g.2)
      (c.merge.kept Filter.key criteria.filters) (c.merge.kept (fun g => g.1.key) pairs) :=
    c.merge.forall₂_kept hpairs fun f g hg => hg.key
  have hpredicate : m.predicate
      = c.merge.join ((c.merge.kept (fun g => g.1.key) pairs).map fun g => g.1.entry) := by
    rw [Merged.predicate_eq_join hm, MergePolicy.kept_map, List.map_map]
    rfl
  have hpredicate' : m'.predicate
      = c.merge.join ((c.merge.kept (fun g => g.1.key) pairs).map fun g => g.2.entry) := by
    rw [Merged.predicate_eq_join hm', MergePolicy.kept_map, List.map_map,
      c.merge.kept_congr hkey]
    rfl
  have hoverwritten : m.overwritten = m'.overwritten := by
    rw [Merged.overwritten_eq hm, Merged.overwritten_eq hm', List.map_map, List.map_map]
    exact congrArg c.merge.overwritten (List.map_congr_left hkey)
  have hlength : m.predicate.length = m'.predicate.length := by
    rw [hpredicate, hpredicate']
    exact c.merge.length_join_congr (by simp)
  refine ⟨?_, rfl, rfl, rfl, ⟨_, hkept, hpredicate, hpredicate'⟩, fun htexts => ?_⟩
  · simp [ofMerged, Query.ofMerged, hoverwritten, hlength]
  · have hsame : pairs.map Prod.fst = pairs.map Prod.snd := by
      refine List.map_congr_left fun g hg => ?_
      obtain ⟨f, hf, hfg⟩ := exists_mem_of_forall₂ hpairs.flip hg
      exact Filter.Encodes.eq_of_comparesTexts hfg (hbuilt f hf) (htexts f hf)
    have hmerged : m = m' := by rw [hm, hm', hsame]
    rw [hmerged]
    rfl

end Conversion

namespace Criteria

/-- The encoding of scalars is seen in the arguments of comparisons only. Criteria convert under
both encodings or fail with the same error under both. The conversions report the same event, with
the same overwritten keys, and their predicates have the same keys in the same order at all depths;
where they differ, a filter or a condition of an OR compares, and the canonical argument is the
natural text of the typed one. Criteria that compare with texts only convert to the same query. -/
theorem encodings_differ_in_arguments (c : Config) (criteria : Criteria)
    (hbuilt : ∀ f ∈ criteria.filters, f.value.Built) :
    GoTogether (Conversion.DifferInArguments c.merge criteria.filters)
      (criteria.convert { c with encoding := .canonical })
      (criteria.convert { c with encoding := .typed }) := by
  have hfragments := GoTogether.mapM fun f hf => Filter.fragment_goTogether (hbuilt f hf)
  rw [convert_eq_fragments, convert_eq_fragments]
  refine hfragments.map fun gs gs' hpairs => ?_
  obtain ⟨pairs, hpairs, rfl, rfl⟩ := hpairs
  exact Conversion.differInArguments_ofMerged hbuilt hpairs rfl rfl

def price : Name := ⟨"price", by decide⟩

def priceOver (n : Int32) : Filter :=
  ⟨price, .greater, ⟨toString n.toInt, .int32 n, .scalar (.int32 n)⟩⟩

def priceWithin (start stop : Value) : Filter :=
  let raw := Value.document [("from", start), ("to", stop)]
  ⟨price, .between, ⟨raw.jsonText, raw, .range start stop⟩⟩

def prices : Criteria := ⟨[priceOver 9, priceWithin (.int32 1) (.int32 20)], .unordered, none, none⟩

/-- One number becomes a text, and the bounds beside it stay numbers. -/
theorem encodings_differ_in_arguments_prices :
    let c : Config := { Config.default with merge := .conjunction }
    let within : Value := .document
      [("price", .document [("$gte", .int32 1), ("$lte", .int32 20)])]
    (∀ f ∈ prices.filters, f.value.Built)
      ∧ ∃ v w, prices.convert { c with encoding := .canonical } = .ok v
        ∧ prices.convert { c with encoding := .typed } = .ok w ∧ v.event = w.event
        ∧ v.query.predicate
          = [("$and", .array [.document [("price", .document [("$gt", .string "9")])], within])]
        ∧ w.query.predicate
          = [("$and", .array [.document [("price", .document [("$gt", .int32 9)])], within])] := by
  intro c within
  have hbuilt : ∀ f ∈ prices.filters, f.value.Built := by
    simp only [prices, List.forall_mem_cons]
    exact ⟨.value (v := .int32 9) rfl,
      .value (v := .document [("from", .int32 1), ("to", .int32 20)]) rfl, by simp⟩
  obtain ⟨v, hv⟩ : ∃ v, prices.convert { c with encoding := .canonical } = .ok v := ⟨_, rfl⟩
  obtain ⟨w, hw⟩ : ∃ w, prices.convert { c with encoding := .typed } = .ok w := ⟨_, rfl⟩
  have hdiffer := encodings_differ_in_arguments c prices hbuilt
  rw [hv, hw] at hdiffer
  cases hdiffer with
  | ok h =>
    refine ⟨hbuilt, v, w, hv, hw, h.event, ?_, ?_⟩
    · cases hv
      rfl
    · cases hw
      rfl

end Criteria

end DocQuery
