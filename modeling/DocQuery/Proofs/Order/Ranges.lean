import DocQuery.Proofs.Filter.Misfit
import DocQuery.Proofs.Query.OwnValue
import Mathlib

/-!
What a range finds in the order that its field gives. A range compares inside one class, the order
goes through all values and through documents without one, and yet nothing that a range leaves out
stands between two things that it finds.
-/
namespace DocQuery

section Convexity

variable {α β : Type}

/-- What stands between two things with the property has it too. -/
def IsConvex (cmp : α → α → Ordering) (p : α → Prop) : Prop :=
  ∀ x y z, cmp x y ≠ .gt → cmp y z ≠ .gt → p x → p z → p y

/-- The items with the property follow each other in the list. -/
def StandTogether (p : α → Prop) (l : List α) : Prop :=
  ∃ before run after, l = before ++ (run ++ after) ∧ (∀ x ∈ run, p x)
    ∧ ∀ x ∈ before ++ after, ¬ p x

namespace IsConvex

variable {cmp : α → α → Ordering} {p q : α → Prop}

theorem and (hp : IsConvex cmp p) (hq : IsConvex cmp q) : IsConvex cmp fun x => p x ∧ q x :=
  fun x y z hxy hyz hx hz => ⟨hp x y z hxy hyz hx.1 hz.1, hq x y z hxy hyz hx.2 hz.2⟩

theorem comap (h : IsConvex cmp p) (f : β → α) :
    IsConvex (fun a b => cmp (f a) (f b)) fun a => p (f a) :=
  fun a b c => h (f a) (f b) (f c)

theorem swap (h : IsConvex cmp p) [Std.OrientedCmp cmp] :
    IsConvex (fun a b => (cmp a b).swap) p := by
  intro x y z hxy hyz hx hz
  have hturn (a b : α) : (cmp a b).swap = cmp b a := Std.OrientedCmp.eq_swap.symm
  have hyx : cmp y x ≠ .gt := hturn x y ▸ hxy
  have hzy : cmp z y ≠ .gt := hturn y z ▸ hyz
  exact h z y x hzy hyx hz hx

/-- A convex property holds of one stretch of an ordered list. -/
theorem standTogether (h : IsConvex cmp p) {l : List α} (hl : l.Pairwise fun a b => cmp a b ≠ .gt) :
    StandTogether p l := by
  induction l with
  | nil => exact ⟨[], [], [], rfl, by simp, by simp⟩
  | cons x rest ih =>
    obtain ⟨hx, hrest⟩ := List.pairwise_cons.mp hl
    obtain ⟨before, run, after, rfl, hrun, hothers⟩ := ih hrest
    by_cases hp : p x
    · cases run with
      | nil =>
        have hothers' : ∀ y ∈ [] ++ (before ++ after), ¬ p y := hothers
        exact ⟨[], [x], before ++ after, rfl, by simpa using hp, hothers'⟩
      | cons y run =>
        -- What stood before the stretch would be between the new item and the stretch.
        have hnone : before = [] := by
          refine List.eq_nil_iff_forall_not_mem.mpr fun b hb => ?_
          have hxb : cmp x b ≠ .gt := hx b (by simp [hb])
          have hby : cmp b y ≠ .gt := (List.pairwise_append.mp hrest).2.2 b hb y (by simp)
          exact hothers b (by simp [hb]) (h x b y hxb hby hp (hrun y (by simp)))
        subst hnone
        refine ⟨[], x :: y :: run, after, rfl, ?_, hothers⟩
        rw [List.forall_mem_cons]
        exact ⟨hp, hrun⟩
    · refine ⟨x :: before, run, after, rfl, hrun, ?_⟩
      rw [List.cons_append, List.forall_mem_cons]
      exact ⟨hp, hothers⟩

end IsConvex

end Convexity

namespace Value

variable {v a : Value} {wanted : Ordering → Bool}

theorem stands_iff : v.Stands wanted a
    ↔ (v.rank = a.rank ∧ v.rank ∈ orderedRanks) ∧ wanted (v.compare a) = true := by
  simp [Stands, compareInClass?_eq_some_iff]

inductive IsSide : (Ordering → Bool) → Prop where
  | above : IsSide Ordering.isGT
  | notBelow : IsSide Ordering.isGE
  | below : IsSide Ordering.isLT
  | notAbove : IsSide Ordering.isLE

theorem IsSide.between (h : IsSide wanted) {x y z : Value} (hxy : x.compare y ≠ .gt)
    (hyz : y.compare z ≠ .gt) (hx : wanted (x.compare a) = true)
    (hz : wanted (z.compare a) = true) : wanted (y.compare a) = true := by
  have hxy' : (x.compare y).isLE := Ordering.isLE_iff_ne_gt.mpr hxy
  have hyz' : (y.compare z).isLE := Ordering.isLE_iff_ne_gt.mpr hyz
  cases h with
  | above =>
    by_contra hy
    rw [Ordering.isGT_iff_eq_gt] at hx hy
    have hle : (y.compare a).isLE := Ordering.isLE_iff_ne_gt.mpr hy
    have hxa : (x.compare a).isLE := Std.TransCmp.isLE_trans hxy' hle
    exact Ordering.isLE_iff_ne_gt.mp hxa hx
  | notBelow =>
    by_contra hy
    have hlt : y.compare a = .lt := by simpa [Ordering.isGE_iff_ne_lt] using hy
    have hxa : x.compare a = .lt := Std.TransCmp.lt_of_isLE_of_lt hxy' hlt
    simp [hxa] at hx
  | below =>
    rw [Ordering.isLT_iff_eq_lt] at hz ⊢
    exact Std.TransCmp.lt_of_isLE_of_lt hyz' hz
  | notAbove => exact Std.TransCmp.isLE_trans hyz' hz

/-- The class of the argument fills a rank, so that nothing of another class is between. -/
theorem isConvex_stands (h : IsSide wanted) (a : Value) :
    IsConvex compare fun v => v.Stands wanted a := by
  intro x y z hxy hyz hx hz
  rw [stands_iff] at hx hz ⊢
  have hlower := rank_le_of_compare hxy
  have hupper := rank_le_of_compare hyz
  have hrank : y.rank = a.rank := by omega
  have hmem : y.rank ∈ orderedRanks := by
    rw [hrank, ← hx.1.1]
    exact hx.1.2
  exact ⟨⟨hrank, hmem⟩, h.between hxy hyz hx.2 hz.2⟩

theorem isConvex_comparePresent {p : Value → Prop} (h : IsConvex compare p) :
    IsConvex comparePresent fun v => ∃ x ∈ v, p x := by
  intro u v w huv hvw hu hw
  obtain ⟨x, rfl, hx⟩ := hu
  obtain ⟨z, rfl, hz⟩ := hw
  cases v with
  | none => exact absurd rfl huv
  | some y => exact ⟨y, rfl, h x y z huv hvw hx hz⟩

end Value

namespace Document

theorem isConvex_compareAt {p : Option Value → Prop} (h : IsConvex Value.comparePresent p)
    (path : String) (direction : Value) :
    IsConvex (compareAt path direction) fun d => p (Document.at? d path) := by
  unfold compareAt
  cases hdirection : direction.isDownwards with
  | true => exact h.swap.comap fun d => Document.at? d path
  | false => exact h.comap fun d => Document.at? d path

end Document

namespace Filter

open Predicate

variable {f : Filter} {encoding : ScalarEncoding} {d : Document} {g : Fragment}

/-- A filter for the values on one side of an argument, or for those between two bounds. -/
inductive IsRange (f : Filter) : Prop where
  | between {start stop : Value} (hop : f.operator = .between)
    (hs : f.value.shape = .range start stop)
  | oneSided (hop : f.operator ∈ [.greater, .greaterOrEqual, .less, .lessOrEqual])

theorem exists_side {op : Operator} (hop : op ∈ [.greater, .greaterOrEqual, .less, .lessOrEqual]) :
    ∃ wanted, Value.IsSide wanted ∧ ∀ (arg : FilterValue) (encoding : ScalarEncoding) v,
      op.Means arg encoding v ↔ ∃ x ∈ v, x.Stands wanted (arg.argument encoding) := by
  simp only [List.mem_cons, List.not_mem_nil, or_false] at hop
  simp only [← FilterValue.exists_comparedAs_iff]
  rcases hop with hop | hop | hop | hop <;> subst hop
  · exact ⟨_, .above, fun _ _ _ => Iff.rfl⟩
  · exact ⟨_, .notBelow, fun _ _ _ => Iff.rfl⟩
  · exact ⟨_, .below, fun _ _ _ => Iff.rfl⟩
  · exact ⟨_, .notAbove, fun _ _ _ => Iff.rfl⟩

theorem not_composite_of_oneSided {op : Operator}
    (hop : op ∈ [.greater, .greaterOrEqual, .less, .lessOrEqual]) : op.isComposite = false := by
  revert hop
  cases op <;> simp [Operator.isComposite]

theorem IsRange.exists_fragment (h : f.IsRange) (encoding : ScalarEncoding) :
    ∃ g, f.fragment encoding = .ok g := by
  cases h with
  | between hop hs => simp [fragment, rangeFragment, FilterValue.bounds, hop, hs]
  | oneSided hop =>
    exact exists_fragment_iff.mpr fun e => not_misfit_of_simple (not_composite_of_oneSided hop)

/-- A range means something about the value at its field, which is convex in the order of values. -/
theorem IsRange.exists_means (h : f.IsRange) (encoding : ScalarEncoding) :
    ∃ p, IsConvex Value.compare p
      ∧ ∀ d : Document, f.Means encoding d ↔ ∃ x ∈ d.at? f.field.text, p x := by
  cases h with
  | @between start stop hop hs =>
    have hstart := Value.isConvex_stands .notBelow start
    have hstop := Value.isConvex_stands .notAbove stop
    refine ⟨_, hstart.and hstop, fun d => ?_⟩
    simp only [Means, hop, hs]
  | oneSided hop =>
    obtain ⟨wanted, hside, hwanted⟩ := exists_side hop
    refine ⟨_, Value.isConvex_stands hside (f.value.argument encoding), fun d => ?_⟩
    rw [(means_of_simple (not_composite_of_oneSided hop)).1, MeansSimply, hwanted]

theorem IsRange.isConvex_means (h : f.IsRange) (encoding : ScalarEncoding) (direction : Value) :
    IsConvex (Document.compareBy [(f.field.text, direction)]) (f.Means encoding) := by
  obtain ⟨p, hp, hmeans⟩ := h.exists_means encoding
  have hat := Document.isConvex_compareAt (Value.isConvex_comparePresent hp) f.field.text direction
  have hcompare : Document.compareBy [(f.field.text, direction)]
      = Document.compareAt f.field.text direction := by
    funext a b
    rw [Document.compareBy, Document.compareBy, Ordering.then_eq]
  rw [hcompare, show f.Means encoding = _ from funext fun d => propext (hmeans d)]
  exact hat

theorem IsRange.not_blocked (h : f.IsRange) (hdollar : f.hasDollar = false) (d : Document) :
    ¬ f.Blocked encoding d := by
  cases h with
  | between hop hs => simp [Blocked, hop, hdollar]
  | oneSided hop =>
    rw [(means_of_simple (not_composite_of_oneSided hop)).2, hdollar]
    exact Bool.false_ne_true

theorem IsRange.answers (h : f.IsRange) (hdollar : f.hasDollar = false)
    (hg : f.fragment encoding = .ok g) (hr : ∀ t ∈ patterns g.document, Readable t) (d : Document) :
    ∃ b, entriesHold onDemand d g.document = .ok b ∧ (b = true ↔ f.Means encoding d) :=
  (fragment_answers hg hr d).exists_ok (h.not_blocked hdollar d)

theorem IsRange.satisfies_iff (h : f.IsRange) (hdollar : f.hasDollar = false)
    (hg : f.fragment encoding = .ok g) : d.satisfies g.document = .ok true
      ↔ (∀ t ∈ patterns g.document, Readable t) ∧ f.Means encoding d := by
  rw [Document.satisfies_eq_ok_iff]
  refine and_congr_right fun hr => ?_
  obtain ⟨b, hb, hmeans⟩ := h.answers hdollar hg hr d
  rw [hb, Except.ok.injEq, hmeans]

theorem IsRange.isConvex_satisfies (h : f.IsRange) (hdollar : f.hasDollar = false)
    (hg : f.fragment encoding = .ok g) (direction : Value) :
    IsConvex (Document.compareBy [(f.field.text, direction)])
      (fun d => Document.satisfies d g.document = .ok true) := by
  intro x y z hxy hyz hx hz
  rw [h.satisfies_iff hdollar hg] at hx hz ⊢
  exact ⟨hx.1, h.isConvex_means encoding direction x y z hxy hyz hx.2 hz.2⟩

end Filter

namespace Criteria

/-- The documents that a range finds follow each other wherever documents are in the order of its
field, upwards or downwards, whatever types the bounds have. A document between two that are found
is found, and none is left without an answer by a predicate that is accepted. -/
theorem range_stands_together (c : Config) (f : Filter) (criteria : Criteria) (hf : f.IsRange)
    (hfilters : criteria.filters = [f]) (hdollar : f.hasDollar = false) :
    ∃ v, criteria.convert c = .ok v
      ∧ (∀ m, Matcher.ofPredicate v.query.predicate = .ok m → ∀ d, ∃ b, m.holds d = .ok b)
      ∧ ∀ direction : Value,
        IsConvex (Document.compareBy [(f.field.text, direction)])
          (fun d => Document.satisfies d v.query.predicate = .ok true)
        ∧ ∀ ds : List Document,
          ds.Pairwise (fun a b => Document.compareBy [(f.field.text, direction)] a b ≠ .gt) →
            StandTogether (fun d => Document.satisfies d v.query.predicate = .ok true) ds := by
  obtain ⟨g, hg⟩ := hf.exists_fragment c.encoding
  obtain ⟨v, hv, hpredicate⟩ := convert_of_single hfilters hg
  refine ⟨v, hv, fun m hm d => ?_, fun direction => ?_⟩
  · rw [hpredicate] at hm
    have hr := Matcher.exists_ofPredicate_iff.mp ⟨m, hm⟩
    obtain ⟨b, hb, -⟩ := hf.answers hdollar hg hr d
    exact ⟨b, (Matcher.holds_eq_onDemand hm d).trans hb⟩
  · have hconvex := hf.isConvex_satisfies hdollar hg direction
    rw [← hpredicate] at hconvex
    exact ⟨hconvex, fun ds hds => hconvex.standTogether hds⟩

def score : Name := ⟨"score", by decide⟩

def scoreWithin : Filter :=
  let raw := Value.document [("start", .int32 2), ("end", .int64 9)]
  ⟨score, .between, ⟨raw.jsonText, raw, .range (.int32 2) (.int64 9)⟩⟩

def scored (v : Value) : Document := [("score", v)]

def scores : List Document :=
  [scored (.string "5"), scored (.int32 12), scored (.int64 9),
    scored (.decimal (.finite false 75 (-1))), scored (.int32 2), scored .null, []]

/-- Between the bounds themselves, a score is found as they are. -/
theorem range_stands_together_scores :
    ∃ v, convert ⟨[scoreWithin], .unordered, none, none⟩ .default = .ok v
      ∧ StandTogether (fun d => Document.satisfies d v.query.predicate = .ok true) scores
      ∧ Document.satisfies (scored (.decimal (.finite false 75 (-1)))) v.query.predicate
        = .ok true := by
  have hf : scoreWithin.IsRange := .between rfl rfl
  have hdollar : scoreWithin.hasDollar = false := by
    simp [Filter.hasDollar, Predicate.isDollar, scoreWithin, score]
  obtain ⟨v, hv, -, hrange⟩ := range_stands_together .default scoreWithin
    ⟨[scoreWithin], .unordered, none, none⟩ hf rfl hdollar
  obtain ⟨hconvex, hrun⟩ := hrange (.int32 (-1))
  have hordered : scores.Pairwise fun a b =>
      Document.compareBy [(scoreWithin.field.text, .int32 (-1))] a b ≠ .gt := by decide +kernel
  have hpredicate : v.query.predicate
      = [("score", .document [("$gte", .int32 2), ("$lte", .int64 9)])] := by
    cases hv
    rfl
  have hhigh : Document.satisfies (scored (.int64 9)) v.query.predicate = .ok true := by
    rw [hpredicate]
    decide +kernel
  have hlow : Document.satisfies (scored (.int32 2)) v.query.predicate = .ok true := by
    rw [hpredicate]
    decide +kernel
  have hbetween := hconvex (scored (.int64 9)) (scored (.decimal (.finite false 75 (-1))))
    (scored (.int32 2)) (by decide +kernel) (by decide +kernel) hhigh hlow
  exact ⟨v, hv, hrun scores hordered, hbetween⟩

end Criteria

end DocQuery
