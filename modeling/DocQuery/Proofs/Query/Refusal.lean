import DocQuery.Proofs.Query.Evaluation
import Mathlib

/-!
What a predicate can be refused for. A pattern is searched for by the filters that are made for it,
but the texts under `$regex` are collected from compared values too. So a value that is only
compared can have its criteria refused, and only such a value can where nothing is searched for.
-/
namespace DocQuery

/-- A text stands under `$regex` in a document inside the value. In an array only its documents are
looked into, so an array in an array hides what it has. -/
inductive Value.Carries (t : String) : Value → Prop where
  | text {d : Document} (h : ("$regex", .string t) ∈ d) : Carries t (.document d)
  | entry {d : Document} {k : String} {v : Value} (h : (k, v) ∈ d) (hv : Carries t v) :
    Carries t (.document d)
  | item {items : List Value} {d : Document} (h : .document d ∈ items)
    (hd : Carries t (.document d)) : Carries t (.array items)

namespace Value

variable {t : String}

theorem carries_document_iff {d : Document} :
    Carries t (.document d) ↔ ∃ e ∈ d, e = ("$regex", .string t) ∨ Carries t e.2 := by
  constructor
  · intro h
    cases h with
    | text h => exact ⟨_, h, .inl rfl⟩
    | entry h hv => exact ⟨_, h, .inr hv⟩
  · rintro ⟨e, he, rfl | hv⟩
    · exact .text he
    · exact .entry he hv

theorem carries_array_iff {items : List Value} :
    Carries t (.array items) ↔ ∃ d, .document d ∈ items ∧ Carries t (.document d) := by
  constructor
  · intro h
    cases h with
    | item h hd => exact ⟨_, h, hd⟩
  · rintro ⟨d, h, hd⟩
    exact .item h hd

theorem not_carries_string (s : String) : ¬ Carries t (.string s) := nofun

end Value

namespace Predicate

variable {t : String}

mutual
theorem mem_patterns_iff_carries (d : List (String × Value)) :
    t ∈ patterns d ↔ Value.Carries t (.document d) := by
  match d with
  | [] => simp [patterns, Value.carries_document_iff]
  | (key, v) :: rest =>
    rw [patterns, List.mem_append, mem_patternsUnder_iff key v, mem_patterns_iff_carries rest,
      Value.carries_document_iff, Value.carries_document_iff]
    simp

theorem mem_patternsUnder_iff (key : String) (v : Value) :
    t ∈ patternsUnder key v ↔ (key, v) = ("$regex", .string t) ∨ v.Carries t := by
  cases v with
  | string s =>
    have hs := Value.not_carries_string (t := t) s
    by_cases hkey : key = "$regex"
    · simp [patternsUnder, hkey, hs, eq_comm]
    · simp [patternsUnder, hkey, hs]
  | document d => simp [patternsUnder, mem_patterns_iff_carries d]
  | array items => simp [patternsUnder, mem_itemPatterns_iff items]
  | _ =>
    simp only [patternsUnder, List.not_mem_nil, Prod.mk.injEq, reduceCtorEq, and_false, false_or,
      false_iff]
    exact nofun

theorem mem_itemPatterns_iff (items : List Value) :
    t ∈ itemPatterns items ↔ Value.Carries t (.array items) := by
  match items with
  | [] => simp [itemPatterns, Value.carries_array_iff]
  | v :: rest =>
    have hrest := mem_itemPatterns_iff rest
    rw [Value.carries_array_iff] at hrest ⊢
    cases v with
    | document d =>
      have hd := mem_patterns_iff_carries d
      simp [itemPatterns, hd, hrest, or_and_right, exists_or]
    | _ => simp [itemPatterns, hrest]
end

end Predicate

def Operator.isSearch : Operator → Bool
  | contains | notContains => true
  | _ => false

namespace Filter

open Predicate

variable {f : Filter} {encoding : ScalarEncoding} {g : Fragment} {t : String}

def leaves (f : Filter) : List Filter :=
  match f.operator, f.value.shape with
  | .anyOf, .conditions filters => filters
  | _, _ => [f]

def operands (f : Filter) (encoding : ScalarEncoding) : List Value :=
  match f.operator, f.value.shape with
  | .between, .range start stop => [start, stop]
  | .oneOf, .list items | .noneOf, .list items => [.array items]
  | op, _ => if op.isSearch then [] else [f.value.argument encoding]

def SearchesFor (f : Filter) (t : String) : Prop :=
  f.operator.isSearch = true ∧ f.value.canonical = t

/-- Inside a value that is compared with, the text stands where a pattern would. -/
def ComparesWith (f : Filter) (encoding : ScalarEncoding) (t : String) : Prop :=
  ∃ x ∈ f.operands encoding, x.Carries t

def Reads (f : Filter) (encoding : ScalarEncoding) (t : String) : Prop :=
  f.SearchesFor t ∨ f.ComparesWith encoding t

theorem mem_patterns_condition_iff {condition : Document}
    (h : f.operator.condition? f.value encoding = some condition) :
    t ∈ patterns condition ↔ f.Reads encoding t := by
  unfold Reads SearchesFor ComparesWith operands
  cases hop : f.operator with
  | equal | notEqual | greater | greaterOrEqual | less | lessOrEqual =>
    rw [hop] at h
    cases h
    simp [patterns, mem_patternsUnder_iff, Operator.isSearch]
  | contains | notContains =>
    rw [hop] at h
    cases h
    simp [patterns, patternsUnder, Operator.isSearch, eq_comm]
  | between | anyOf | oneOf | noneOf =>
    rw [hop] at h
    cases h

theorem mem_patterns_branch_iff {c : Filter} {p : Document} (h : c.branch encoding = .ok p) :
    t ∈ patterns p ↔ c.Reads encoding t := by
  unfold branch at h
  split at h
  next condition hc =>
    cases h
    rw [← mem_patterns_condition_iff hc]
    simp [patterns, patternsUnder]
  next => cases h

theorem leaves_of_ne (h : f.operator ≠ .anyOf) : f.leaves = [f] := by
  unfold leaves
  split
  next hop hs => exact absurd hop h
  next => rfl

theorem leaves_of_condition {condition : Document}
    (h : f.operator.condition? f.value encoding = some condition) : f.leaves = [f] := by
  refine leaves_of_ne fun hop => ?_
  rw [hop] at h
  cases h

theorem leaves_of_conditions {filters : List Filter} (hop : f.operator = .anyOf)
    (hs : f.value.shape = .conditions filters) : f.leaves = filters := by
  simp [leaves, hop, hs]

/-- What stands for patterns in a fragment is what the conditions of its filter have read. -/
theorem mem_patterns_fragment_iff (h : f.fragment encoding = .ok g) :
    t ∈ patternsUnder g.key g.condition ↔ ∃ c ∈ f.leaves, c.Reads encoding t := by
  cases emits_of_fragment h with
  | simple hc =>
    simp only [leaves_of_condition hc, List.mem_singleton, exists_eq_left]
    exact mem_patterns_condition_iff hc
  | range hop hs =>
    have hleaves : f.leaves = [f] := leaves_of_ne (by simp [hop])
    simp [hleaves, Reads, SearchesFor, ComparesWith, operands, hop, hs, Operator.isSearch, patterns,
      patternsUnder, mem_patternsUnder_iff]
  | oneOf hop hs | noneOf hop hs =>
    have hleaves : f.leaves = [f] := leaves_of_ne (by simp [hop])
    simp [hleaves, Reads, SearchesFor, ComparesWith, operands, hop, hs, Operator.isSearch, patterns,
      patternsUnder, mem_itemPatterns_iff]
  | anyOf hop hs hb =>
    rw [leaves_of_conditions hop hs,
      exists_mem_iff_of_forall₂ hb fun c p hp => (mem_patterns_branch_iff hp).symm]
    exact mem_itemPatterns_documents_iff

section Evaluation

variable {r s : Resolver} {d : Document}

/-- Only `$regex` takes a pattern. -/
theorem conditionHolds_congr_of_ne {op : String} (hdollar : isDollar op = true) (hnot : op ≠ "$not")
    (hregex : op ≠ "$regex") (v : Option Value) (arg : Value) :
    conditionHolds r v (.document [(op, arg)]) = conditionHolds s v (.document [(op, arg)]) := by
  rw [conditionHolds_operator v arg hdollar hnot, conditionHolds_operator v arg hdollar hnot]
  unfold operatorHolds
  split <;> first | rfl | contradiction

theorem condition_congr {condition : Document}
    (h : f.operator.condition? f.value encoding = some condition)
    (hrs : ∀ t, f.SearchesFor t → r t = s t) (v : Option Value) :
    conditionHolds r v (.document condition) = conditionHolds s v (.document condition) := by
  cases hop : f.operator with
  | equal | notEqual | greater | greaterOrEqual | less | lessOrEqual =>
    rw [hop] at h
    cases h
    exact conditionHolds_congr_of_ne (isDollar_operator (by simp)) (by simp) (by simp) v _
  | contains | notContains =>
    rw [hop] at h
    cases h
    refine conditionHolds_congr v "" _ fun t ht => hrs t ⟨by simp [hop, Operator.isSearch], ?_⟩
    simpa [patternsUnder, patterns, eq_comm] using ht
  | between | anyOf | oneOf | noneOf =>
    rw [hop] at h
    cases h

theorem entriesHold_field_congr {key : String} {c : Document}
    (h : ∀ v, conditionHolds r v (.document c) = conditionHolds s v (.document c)) :
    entriesHold r d [(key, .document c)] = entriesHold s d [(key, .document c)] := by
  rw [entriesHold_singleton, entriesHold_singleton, h]
  rfl

theorem branch_congr {c : Filter} {p : Document} (h : c.branch encoding = .ok p)
    (hrs : ∀ t, c.SearchesFor t → r t = s t) : entriesHold r d p = entriesHold s d p := by
  unfold branch at h
  split at h
  next condition hc =>
    cases h
    exact entriesHold_field_congr (condition_congr hc hrs)
  next => cases h

theorem branches_congr {filters : List Filter} {branches : List Document}
    (h : List.Forall₂ (fun c p => c.branch encoding = .ok p) filters branches)
    (hrs : ∀ c ∈ filters, ∀ t, c.SearchesFor t → r t = s t) :
    someHolds r d (branches.map .document) = someHolds s d (branches.map .document) := by
  induction h with
  | nil => simp [someHolds]
  | cons hc _ ih =>
    rw [List.forall_mem_cons] at hrs
    simp only [List.map_cons, someHolds, branch_congr hc hrs.1, ih hrs.2]

/-- Evaluating a fragment takes patterns for searched texts only. -/
theorem fragment_congr (h : f.fragment encoding = .ok g)
    (hrs : ∀ c ∈ f.leaves, ∀ t, c.SearchesFor t → r t = s t) :
    entriesHold r d g.document = entriesHold s d g.document := by
  cases emits_of_fragment h with
  | simple hc =>
    rw [leaves_of_condition hc, List.forall_mem_singleton] at hrs
    exact entriesHold_field_congr (condition_congr hc hrs)
  | range hop hs =>
    refine entriesHold_field_congr fun v => ?_
    simp [conditionHolds, isOperators, isDollar_operator, operatorsHold, operatorHolds]
  | oneOf hop hs | noneOf hop hs =>
    refine entriesHold_field_congr fun v => ?_
    exact conditionHolds_congr_of_ne (isDollar_operator (by simp)) (by simp) (by simp) v _
  | anyOf hop hs hb =>
    rw [leaves_of_conditions hop hs] at hrs
    have hbranches := branches_congr (r := r) (s := s) (d := d) hb hrs
    simp only [Fragment.document, Fragment.entry, entriesHold_singleton, if_true, someBranch,
      hbranches]

theorem fragments_congr {filters : List Filter} {gs : List Fragment}
    (h : List.Forall₂ (fun f g => f.fragment encoding = .ok g) filters gs)
    (hrs : ∀ f ∈ filters, ∀ c ∈ f.leaves, ∀ t, c.SearchesFor t → r t = s t) :
    entriesHold r d (gs.map Fragment.entry) = entriesHold s d (gs.map Fragment.entry) := by
  induction h with
  | nil => simp [entriesHold]
  | @cons f g fs gs hfg _ ih =>
    rw [List.forall_mem_cons] at hrs
    have hfirst : entriesHold r d [g.entry] = entriesHold s d [g.entry] := fragment_congr hfg hrs.1
    rw [List.map_cons, entriesHold_cons, hfirst, ih hrs.2, ← entriesHold_cons]

end Evaluation

end Filter

namespace Criteria

open Predicate

variable {c : Config} {criteria : Criteria} {v : Conversion}

/-- The predicate of criteria that convert asks for the fragments of the filters that are kept. -/
theorem kept_fragments (h : criteria.convert c = .ok v) :
    ∃ gs, List.Forall₂ (fun f g => f.fragment c.encoding = .ok g)
        (c.merge.kept Filter.key criteria.filters) gs
      ∧ (∀ r d, entriesHold r d v.query.predicate = entriesHold r d (gs.map Fragment.entry))
      ∧ patterns v.query.predicate = patterns (gs.map Fragment.entry) := by
  obtain ⟨merged, hmerged, hpredicate⟩ := predicate_of_convert h
  obtain ⟨gs, hgs, hm⟩ := Merged.ofFilters_eq_ok_iff.mp hmerged
  rw [hpredicate]
  exact ⟨_, c.merge.forall₂_kept hgs fun _ _ hfg => Filter.key_of_fragment hfg,
    Merged.asks_for_kept hm⟩

theorem mem_patterns_iff_reads (h : criteria.convert c = .ok v) (t : String) :
    t ∈ patterns v.query.predicate
      ↔ ∃ f ∈ c.merge.kept Filter.key criteria.filters, ∃ l ∈ f.leaves, l.Reads c.encoding t := by
  obtain ⟨gs, hgs, -, hpatterns⟩ := kept_fragments h
  rw [hpatterns, mem_patterns_iff,
    exists_mem_iff_of_forall₂ hgs fun f g hfg => (Filter.mem_patterns_fragment_iff hfg).symm]
  simp [Fragment.entry]

theorem evaluation_congr (h : criteria.convert c = .ok v) {r s : Resolver}
    (hrs : ∀ f ∈ c.merge.kept Filter.key criteria.filters, ∀ l ∈ f.leaves,
      ∀ t, l.SearchesFor t → r t = s t) (d : Document) :
    entriesHold r d v.query.predicate = entriesHold s d v.query.predicate := by
  obtain ⟨gs, hgs, hasks, -⟩ := kept_fragments h
  rw [hasks, hasks]
  exact Filter.fragments_congr hgs hrs

/-- Criteria that convert are refused for a text that cannot be read as a pattern: one that a kept
filter searches for, or one inside a value that it only compares with. So where all texts of the
second kind can be read, only a search is refused. No document is asked about a text of the second
kind. -/
theorem refused_iff_reads (c : Config) (criteria : Criteria) (v : Conversion)
    (h : criteria.convert c = .ok v) :
    ((∃ m, Matcher.ofPredicate v.query.predicate = .ok m)
      ↔ ∀ f ∈ c.merge.kept Filter.key criteria.filters, ∀ l ∈ f.leaves,
        ∀ t, l.Reads c.encoding t → Readable t)
    ∧ (∀ e, Matcher.ofPredicate v.query.predicate = .error e →
      ∃ f ∈ c.merge.kept Filter.key criteria.filters, ∃ l ∈ f.leaves, ∃ t,
        l.Reads c.encoding t ∧ ¬ Readable t ∧ e = .invalidShape (.pattern t))
    ∧ ((∀ f ∈ criteria.filters, ∀ l ∈ f.leaves, ∀ t, l.ComparesWith c.encoding t → Readable t) →
      ∀ e, Matcher.ofPredicate v.query.predicate = .error e →
        ∃ f ∈ criteria.filters, ∃ l ∈ f.leaves, l.operator.isSearch = true
          ∧ ¬ Readable l.value.canonical ∧ e = .invalidShape (.pattern l.value.canonical))
    ∧ ∀ r s : Resolver, (∀ f ∈ c.merge.kept Filter.key criteria.filters, ∀ l ∈ f.leaves,
        ∀ t, l.SearchesFor t → r t = s t) →
      ∀ d, entriesHold r d v.query.predicate = entriesHold s d v.query.predicate := by
  have hreads := mem_patterns_iff_reads h
  have herror : ∀ e, Matcher.ofPredicate v.query.predicate = .error e →
      ∃ f ∈ c.merge.kept Filter.key criteria.filters, ∃ l ∈ f.leaves, ∃ t,
        l.Reads c.encoding t ∧ ¬ Readable t ∧ e = .invalidShape (.pattern t) := by
    intro e he
    obtain ⟨before, t, after, hpatterns, -, hbad, hcause⟩ := Matcher.ofPredicate_eq_error_iff.mp he
    have ht : t ∈ patterns v.query.predicate := by simp [hpatterns]
    obtain ⟨f, hf, l, hl, hlt⟩ := (hreads t).mp ht
    exact ⟨f, hf, l, hl, t, hlt, hbad, hcause⟩
  refine ⟨?_, herror, ?_, fun r s hrs d => evaluation_congr h hrs d⟩
  · rw [Matcher.exists_ofPredicate_iff]
    constructor
    · intro hall f hf l hl t ht
      exact hall t ((hreads t).mpr ⟨f, hf, l, hl, ht⟩)
    · intro hall t ht
      obtain ⟨f, hf, l, hl, hlt⟩ := (hreads t).mp ht
      exact hall f hf l hl t hlt
  · intro hplain e he
    obtain ⟨f, hf, l, hl, t, hlt, hbad, hcause⟩ := herror e he
    have hmem : f ∈ criteria.filters := c.merge.mem_of_mem_kept hf
    cases hlt with
    | inl hsearch =>
      obtain ⟨hop, rfl⟩ := hsearch
      exact ⟨f, hmem, l, hl, hop, hbad, hcause⟩
    | inr hcompares => exact absurd (hplain f hmem l hl t hcompares) hbad

def patternDocument (text : String) : Value := .document [("$regex", .string text)]

def tagIn (text : String) : Filter :=
  let items := [patternDocument text]
  ⟨⟨"tag", by decide⟩, .oneOf,
    ⟨",".intercalate (items.map Value.naturalText), .array items, .list items⟩⟩

def tagContains (text : String) : Filter :=
  ⟨⟨"tag", by decide⟩, .contains, ⟨text, .string text, .scalar (.string text)⟩⟩

theorem tagIn_compares_iff {text t : String} {encoding : ScalarEncoding} :
    (tagIn text).ComparesWith encoding t ↔ t = text := by
  simp [Filter.ComparesWith, Filter.operands, tagIn, patternDocument, Value.carries_array_iff,
    Value.carries_document_iff, Value.not_carries_string, eq_comm]

/-- Next to a compared text that can be read, it is the search that is refused. -/
theorem refused_iff_reads_openSearch :
    ∃ v e, convert ⟨[tagIn "^a", tagContains "("], .unordered, none, none⟩
        { Config.default with merge := .conjunction } = .ok v
      ∧ Matcher.ofPredicate v.query.predicate = .error e
      ∧ ∃ f ∈ [tagIn "^a", tagContains "("], ∃ l ∈ f.leaves, l.operator.isSearch = true
        ∧ ¬ Readable l.value.canonical ∧ e = .invalidShape (.pattern l.value.canonical) := by
  let c : Config := { Config.default with merge := .conjunction }
  let criteria : Criteria := ⟨[tagIn "^a", tagContains "("], .unordered, none, none⟩
  let predicate : Document :=
    [("$and", .array
      [.document [("tag", .document [("$in", .array [patternDocument "^a"])])],
       .document [("tag", .document [("$regex", .string "(")])]])]
  let v := Conversion.ofMerged ⟨predicate, [], []⟩ c criteria
  have hv : criteria.convert c = .ok v := rfl
  have he : Matcher.ofPredicate v.query.predicate = .error (.invalidShape (.pattern "(")) := by cbv
  obtain ⟨-, -, hsearch, -⟩ := refused_iff_reads c criteria v hv
  refine ⟨v, _, hv, he, hsearch ?_ _ he⟩
  have hread : Readable "^a" := ⟨.seq [.look .start, .literal ['a']], by cbv⟩
  intro f hf l hl t ht
  rcases List.mem_pair.mp hf with rfl | rfl
  · obtain rfl : l = tagIn "^a" := by simpa [Filter.leaves, tagIn] using hl
    obtain rfl := tagIn_compares_iff.mp ht
    exact hread
  · obtain rfl : l = tagContains "(" := by simpa [Filter.leaves, tagContains] using hl
    simp [Filter.ComparesWith, Filter.operands, tagContains, Operator.isSearch] at ht

/-- A tag that is only compared with a document is refused as a search would be, and nothing is
searched for. -/
theorem compared_tag_refused :
    ∃ v, Filter.of "tag" .oneOf (.array [patternDocument "("]) = .ok (tagIn "(")
      ∧ convert ⟨[tagIn "("], .unordered, none, none⟩ .default = .ok v
      ∧ (∀ f ∈ [tagIn "("], ∀ l ∈ f.leaves, l.operator.isSearch = false)
      ∧ Matcher.ofPredicate v.query.predicate = .error (.invalidShape (.pattern "(")) := by
  let predicate : Document := [("tag", .document [("$in", .array [patternDocument "("])])]
  refine ⟨Conversion.ofMerged ⟨predicate, [], []⟩ .default _, rfl, rfl, ?_, by cbv⟩
  simp [Filter.leaves, tagIn, Operator.isSearch]

end Criteria

end DocQuery
