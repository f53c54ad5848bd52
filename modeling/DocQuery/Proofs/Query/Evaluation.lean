import DocQuery.Proofs.Filter.Meaning
import DocQuery.Proofs.Query.Kept
import DocQuery.Proofs.Store.Search
import Mathlib

/-!
Evaluating the predicate of criteria that convert. It is refused only for a pattern that cannot be
read, before any document; then an answer is what all filters kept by the merge policy mean. The one
way to no answer is a field whose name starts with a dollar sign: nothing keeps such a name out of
criteria, and it is taken for an operator that no document can be asked about.
-/
namespace DocQuery

open Predicate

namespace Filter

variable {f : Filter} {encoding : ScalarEncoding} {d : Document}

/-- The fields that documents are asked about. An OR has only those of its conditions. -/
def fields (f : Filter) : List Name :=
  match f.operator, f.value.shape with
  | .anyOf, .conditions filters => filters.map Filter.field
  | _, _ => [f.field]

theorem exists_dollar_of_blocked (h : f.Blocked encoding d) :
    ∃ n ∈ f.fields, isDollar n.text = true := by
  unfold Blocked at h
  unfold fields
  generalize f.operator = op, f.value.shape = shape at h ⊢
  cases op with
  | anyOf =>
    cases shape with
    | conditions filters =>
      obtain ⟨before, c, after, rfl, -, hc⟩ := h
      exact ⟨c.field, by simp, hc⟩
    | scalar | list | range => exact ⟨f.field, List.mem_singleton_self _, h⟩
  | _ => exact ⟨f.field, List.mem_singleton_self _, h⟩

/-- Fragments one after another are gone through up to the first filter that does not hold. -/
theorem fragments_answer {filters : List Filter} {gs : List Fragment}
    (h : List.Forall₂ (fun f g => f.fragment encoding = .ok g) filters gs)
    (hr : ∀ t ∈ patterns (gs.map Fragment.entry), Readable t) :
    Answers (entriesHold onDemand d (gs.map Fragment.entry)) (∀ f ∈ filters, f.Means encoding d)
      (Meets (fun f => f.Blocked encoding d) (fun f => f.Means encoding d) filters) := by
  induction h with
  | nil => simpa [entriesHold, not_meets_nil] using Answers.ofOk (b := true) (s := True) (by simp)
  | @cons f g fs gs hfg _ ih =>
    rw [List.map_cons, patterns, List.forall_mem_append] at hr
    have hone : patterns g.document = patternsUnder g.key g.condition := List.append_nil _
    have hfirst := fragment_answers hfg (hone ▸ hr.1) d
    have hboth := hfirst.both (ih hr.2)
    rw [List.map_cons, entriesHold_cons, meets_cons_iff, List.forall_mem_cons]
    exact hboth

end Filter

namespace Merged

theorem merged_answers {c : Config} {filters : List Filter} {m : Merged}
    (h : ofFilters c filters = .ok m) (hr : ∀ t ∈ patterns m.predicate, Readable t)
    (d : Document) :
    Answers (entriesHold onDemand d m.predicate)
      (∀ f ∈ c.merge.kept Filter.key filters, f.Means c.encoding d)
      (Meets (fun f => f.Blocked c.encoding d) (fun f => f.Means c.encoding d)
        (c.merge.kept Filter.key filters)) := by
  obtain ⟨gs, hgs, hm⟩ := ofFilters_eq_ok_iff.mp h
  obtain ⟨hasks, hpatterns⟩ := asks_for_kept hm
  have hkept := c.merge.forall₂_kept hgs fun _ _ hfg => Filter.key_of_fragment hfg
  rw [hasks]
  rw [hpatterns] at hr
  exact Filter.fragments_answer hkept hr

end Merged

namespace Criteria

theorem predicate_of_convert {criteria : Criteria} {c : Config} {v : Conversion}
    (h : criteria.convert c = .ok v) :
    ∃ m, Merged.ofFilters c criteria.filters = .ok m ∧ v.query.predicate = m.predicate := by
  rw [convert_eq_map, map_eq_ok_iff] at h
  obtain ⟨m, hm, rfl⟩ := h
  exact ⟨m, hm, rfl⟩

/-- Of criteria that convert the predicate is refused for the first pattern that cannot be read, and
for nothing else. Where it is not refused, an answer is whether all kept filters hold. There is no
answer just when, past kept filters that hold, one is met whose field starts with a dollar sign, and
this is reported as a broken predicate; without such fields there is always an answer. -/
theorem evaluation_fails_iff_dollar (c : Config) (criteria : Criteria) (v : Conversion)
    (h : criteria.convert c = .ok v) :
    (∀ e, Matcher.ofPredicate v.query.predicate = .error e
      ↔ Meets (fun t => ¬ Readable t ∧ e = .invalidShape (.pattern t)) Readable
          (patterns v.query.predicate))
    ∧ ∀ m, Matcher.ofPredicate v.query.predicate = .ok m → ∀ d : Document,
      (∀ b, m.holds d = .ok b
        → (b = true ↔ ∀ f ∈ c.merge.kept Filter.key criteria.filters, f.Means c.encoding d))
      ∧ ((∃ e, m.holds d = .error e)
        ↔ Meets (fun f => f.Blocked c.encoding d) (fun f => f.Means c.encoding d)
            (c.merge.kept Filter.key criteria.filters))
      ∧ (∀ e, m.holds d = .error e → e.kind = .internal)
      ∧ ((∀ f ∈ criteria.filters, ∀ n ∈ f.fields, isDollar n.text = false)
        → ∃ b, m.holds d = .ok b) := by
  obtain ⟨merged, hmerged, hpredicate⟩ := predicate_of_convert h
  refine ⟨fun e => Matcher.ofPredicate_eq_error_iff, fun m hm d => ?_⟩
  have hr := Matcher.exists_ofPredicate_iff.mp ⟨m, hm⟩
  have hanswers := Merged.merged_answers hmerged (hpredicate ▸ hr) d
  rw [← hpredicate, ← Matcher.holds_eq_onDemand hm] at hanswers
  refine ⟨hanswers.truth, hanswers.failure, hanswers.internal, fun hplain => ?_⟩
  cases hd : m.holds d with
  | ok b => exact ⟨b, rfl⟩
  | error e =>
    obtain ⟨before, f, after, hkept, -, hblocked⟩ := hanswers.failure.mp ⟨e, hd⟩
    obtain ⟨n, hn, hdollar⟩ := Filter.exists_dollar_of_blocked hblocked
    have hf : f ∈ c.merge.kept Filter.key criteria.filters := by simp [hkept]
    rw [hplain f (c.merge.mem_of_mem_kept hf) n hn] at hdollar
    cases hdollar

def whereIsX : Filter :=
  ⟨⟨"$where", by decide⟩, .equal, ⟨"x", .string "x", .scalar (.string "x")⟩⟩

def emmaWhereX : Criteria := ⟨[Merged.titleIs "Emma", whereIsX], .unordered, none, none⟩

/-- The field with the dollar sign is met for the one title only. -/
theorem evaluation_fails_iff_dollar_emma :
    ∃ v m, emmaWhereX.convert .default = .ok v ∧ Matcher.ofPredicate v.query.predicate = .ok m
      ∧ m.holds Merged.ulysses = .ok false
      ∧ ¬ Meets (fun f => f.Blocked .canonical Merged.ulysses)
        (fun f => f.Means .canonical Merged.ulysses) emmaWhereX.filters
      ∧ Meets (fun f => f.Blocked .canonical [("title", .string "Emma")])
        (fun f => f.Means .canonical [("title", .string "Emma")]) emmaWhereX.filters := by
  let predicate : Document :=
    [("title", .document [("$eq", .string "Emma")]), ("$where", .document [("$eq", .string "x")])]
  let v := Conversion.ofMerged ⟨predicate, [], []⟩ .default emmaWhereX
  have hv : emmaWhereX.convert .default = .ok v := rfl
  have hm : Matcher.ofPredicate v.query.predicate = .ok ⟨predicate, []⟩ := rfl
  have hulysses : Matcher.holds ⟨predicate, []⟩ Merged.ulysses = .ok false := by cbv
  have hemma : Matcher.holds ⟨predicate, []⟩ [("title", .string "Emma")]
      = .error (.internal (.topLevelOperator "$where")) := by cbv
  obtain ⟨-, h⟩ := evaluation_fails_iff_dollar .default emmaWhereX v hv
  obtain ⟨-, hno, -⟩ := h _ hm Merged.ulysses
  obtain ⟨-, hmet, -⟩ := h _ hm [("title", .string "Emma")]
  refine ⟨v, _, hv, hm, hulysses, fun hmeets => ?_, hmet.mp ⟨_, hemma⟩⟩
  obtain ⟨e, he⟩ := hno.mpr hmeets
  simp [hulysses] at he

def requestWhereX : Request :=
  ⟨[.object [("field", .string "$where"), ("operator", .string "="), ("value", .string "x")]],
    none, none, none, none⟩

/-- A request with a field that starts with a dollar sign converts, its predicate is not refused, and
then no document at all has an answer. -/
theorem no_answer_for_where :
    ∃ criteria v m, requestWhereX.criteria = .ok criteria ∧ criteria.convert .default = .ok v
      ∧ Matcher.ofPredicate v.query.predicate = .ok m
      ∧ ∀ d, m.holds d = .error (.internal (.topLevelOperator "$where")) := by
  let criteria : Criteria := ⟨[whereIsX], .unordered, none, none⟩
  let predicate : Document := [("$where", .document [("$eq", .string "x")])]
  let v := Conversion.ofMerged ⟨predicate, [], []⟩ .default criteria
  refine ⟨criteria, v, ⟨predicate, []⟩, rfl, rfl, rfl, fun d => ?_⟩
  rw [Matcher.holds, entriesHold_singleton, if_neg (by decide), if_neg (by decide)]
  exact if_pos (by simp [isDollar])

end Criteria

end DocQuery
