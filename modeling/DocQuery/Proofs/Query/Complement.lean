import DocQuery.Proofs.Query.OwnValue
import Mathlib

/-!
Operators in pairs. One of a pair denies what the other says, of every value and of none; where one
cannot be asked, the other fails in the same way. The two sides of a bound are opposite only where a
value has an order to it, and beside that order neither holds.
-/
namespace DocQuery

def Opposite (x y : Except Error Bool) : Prop :=
  (∃ e, x = .error e ∧ y = .error e) ∨ ∃ b, x = .ok b ∧ y = .ok (!b)

/-- Both fail with one error, or they are opposite just in this case, and beside it both say no. -/
def OppositeWhere (case : Prop) (x y : Except Error Bool) : Prop :=
  (∃ e, x = .error e ∧ y = .error e)
    ∨ ∃ b b', x = .ok b ∧ y = .ok b' ∧ (b' = (!b) ↔ case) ∧ (¬ case → b = false ∧ b' = false)

theorem opposite_map_not (x : Except Error Bool) : Opposite x (x.map not) := by
  cases x with
  | error e => exact .inl ⟨e, rfl, rfl⟩
  | ok b => exact .inr ⟨b, rfl, rfl⟩

namespace Operator

inductive Denies : Operator → Operator → Prop where
  | equal : Denies .equal .notEqual
  | contains : Denies .contains .notContains
  | oneOf : Denies .oneOf .noneOf

/-- The two sides of a bound, of which the second has the bound itself. -/
inductive Sides : Operator → Operator → Prop where
  | above : Sides .greater .lessOrEqual
  | below : Sides .less .greaterOrEqual

end Operator

namespace Predicate

variable {r : Resolver} {key : String} {p q d : Document} {v : Option Value} {a : Value}

/-- Two conditions with the same patterns of which the second says that the first does not hold. -/
structure Denied (p q : Document) : Prop where
  patterns : patterns q = patterns p
  holds : ∀ v, conditionHolds onDemand v (.document q)
    = (conditionHolds onDemand v (.document p)).map not

theorem Denied.opposite (h : Denied p q) (key : String) (d : Document) :
    Opposite (d.satisfies [(key, .document p)]) (d.satisfies [(key, .document q)]) := by
  have hmap : d.satisfies [(key, .document q)] = (d.satisfies [(key, .document p)]).map not := by
    rw [satisfies_condition, satisfies_condition, h.patterns, h.holds]
    cases opened key (Predicate.patterns p) <;> rfl
  rw [hmap]
  exact opposite_map_not _

theorem denied_equal (a : Value) : Denied [("$eq", a)] [("$ne", a)] where
  patterns := by
    cases a <;> simp [Predicate.patterns, patternsUnder]
  holds v := by
    rw [conditionHolds_operator v a (isDollar_operator (by simp)) (by simp),
      conditionHolds_operator v a (isDollar_operator (by simp)) (by simp)]
    rfl

theorem denied_search (pattern : String) :
    Denied [("$regex", .string pattern)] [("$not", .document [("$regex", .string pattern)])] where
  patterns := by simp [Predicate.patterns, patternsUnder]
  holds v := conditionHolds_not v _

theorem denied_oneOf (items : List Value) :
    Denied [("$in", .array items)] [("$nin", .array items)] where
  patterns := by simp [Predicate.patterns, patternsUnder]
  holds v := by
    rw [conditionHolds_operator v _ (isDollar_operator (by simp)) (by simp),
      conditionHolds_operator v _ (isDollar_operator (by simp)) (by simp)]
    rfl

def Comparable (v : Option Value) (a : Value) : Prop :=
  ∃ x ∈ v, ∃ o, x.compareInClass? a = some o

/-- Orders of which one is wanted just when the other is not are told apart by comparable values
only. -/
theorem compares_opposite_iff {wanted other : Ordering → Bool} (h : ∀ o, other o = !wanted o) :
    compares v a other = (!compares v a wanted) ↔ Comparable v a := by
  cases v with
  | none => simp [compares, Comparable]
  | some x => cases hx : x.compareInClass? a <;> simp [compares, Comparable, hx, h]

theorem compares_of_not_comparable (h : ¬ Comparable v a) (wanted : Ordering → Bool) :
    compares v a wanted = false := by
  rw [← Bool.not_eq_true, compares_iff]
  rintro ⟨x, hx, o, ho, -⟩
  exact h ⟨x, hx, o, ho⟩

/-- Two conditions with the same patterns that ask for opposite orders to one argument. -/
structure Divided (a : Value) (p q : Document) : Prop where
  patterns : patterns q = patterns p
  holds : ∃ wanted other : Ordering → Bool, (∀ o, other o = !wanted o)
    ∧ (∀ v, conditionHolds onDemand v (.document p) = .ok (compares v a wanted))
    ∧ ∀ v, conditionHolds onDemand v (.document q) = .ok (compares v a other)

theorem Divided.opposite (h : Divided a p q) (key : String) (d : Document) :
    OppositeWhere (Comparable (d.at? key) a) (d.satisfies [(key, .document p)])
      (d.satisfies [(key, .document q)]) := by
  obtain ⟨wanted, other, hother, hp, hq⟩ := h.holds
  rw [satisfies_condition, satisfies_condition, h.patterns, hp, hq]
  cases opened key (Predicate.patterns p) with
  | error e => exact .inl ⟨e, rfl, rfl⟩
  | ok _ =>
    refine .inr ⟨_, _, rfl, rfl, compares_opposite_iff hother, fun hnot => ?_⟩
    exact ⟨compares_of_not_comparable hnot wanted, compares_of_not_comparable hnot other⟩

theorem divided_above (a : Value) : Divided a [("$gt", a)] [("$lte", a)] where
  patterns := by
    cases a <;> simp [Predicate.patterns, patternsUnder]
  holds := by
    refine ⟨Ordering.isGT, Ordering.isLE, fun o => by cases o <;> rfl, fun v => ?_, fun v => ?_⟩
    · exact conditionHolds_operator v a (isDollar_operator (by simp)) (by simp)
    · exact conditionHolds_operator v a (isDollar_operator (by simp)) (by simp)

theorem divided_below (a : Value) : Divided a [("$lt", a)] [("$gte", a)] where
  patterns := by
    cases a <;> simp [Predicate.patterns, patternsUnder]
  holds := by
    refine ⟨Ordering.isLT, Ordering.isGE, fun o => by cases o <;> rfl, fun v => ?_, fun v => ?_⟩
    · exact conditionHolds_operator v a (isDollar_operator (by simp)) (by simp)
    · exact conditionHolds_operator v a (isDollar_operator (by simp)) (by simp)

end Predicate

namespace Filter

variable {field : Name} {w : FilterValue} {encoding : ScalarEncoding} {op op' : Operator}
  {g g' : Fragment}

/-- The fragments of a pair on one field and one value are conditions of which one denies the
other. -/
theorem denied_of_denies (h : op.Denies op')
    (hg : Filter.fragment ⟨field, op, w⟩ encoding = .ok g)
    (hg' : Filter.fragment ⟨field, op', w⟩ encoding = .ok g') :
    ∃ p q, g.document = [(field.text, .document p)] ∧ g'.document = [(field.text, .document q)]
      ∧ Predicate.Denied p q := by
  cases h with
  | equal =>
    cases hg
    cases hg'
    exact ⟨_, _, rfl, rfl, Predicate.denied_equal _⟩
  | contains =>
    cases hg
    cases hg'
    exact ⟨_, _, rfl, rfl, Predicate.denied_search _⟩
  | oneOf =>
    obtain ⟨items, hitems, rfl⟩ := eq_of_listFragment hg
    obtain ⟨items', hitems', rfl⟩ := eq_of_listFragment hg'
    have hsame : items' = items := Shape.list.inj (hitems'.symm.trans hitems)
    subst hsame
    exact ⟨_, _, rfl, rfl, Predicate.denied_oneOf items'⟩

theorem divided_of_sides (h : op.Sides op')
    (hg : Filter.fragment ⟨field, op, w⟩ encoding = .ok g)
    (hg' : Filter.fragment ⟨field, op', w⟩ encoding = .ok g') :
    ∃ p q, g.document = [(field.text, .document p)] ∧ g'.document = [(field.text, .document q)]
      ∧ Predicate.Divided (w.argument encoding) p q := by
  cases h with
  | above =>
    cases hg
    cases hg'
    exact ⟨_, _, rfl, rfl, Predicate.divided_above _⟩
  | below =>
    cases hg
    cases hg'
    exact ⟨_, _, rfl, rfl, Predicate.divided_below _⟩

end Filter

namespace Criteria

variable {c : Config} {f : Filter} {criteria : Criteria} {v : Conversion}

theorem predicate_of_single (hfilters : criteria.filters = [f]) (h : criteria.convert c = .ok v) :
    ∃ g, f.fragment c.encoding = .ok g ∧ v.query.predicate = g.document := by
  obtain ⟨m, hm, -⟩ := predicate_of_convert h
  rw [hfilters] at hm
  obtain ⟨gs, hgs, -⟩ := Merged.ofFilters_eq_ok_iff.mp hm
  obtain ⟨g, -, hg⟩ := exists_mem_of_forall₂ hgs (List.mem_singleton_self f)
  obtain ⟨v', hv', hpredicate⟩ := convert_of_single hfilters hg
  have hsame : v = v' := Except.ok.inj (h.symm.trans hv')
  exact ⟨g, hg, hsame ▸ hpredicate⟩

/-- Two filters with one field and one value, whose operators are a pair, are asked about a document.
Where one operator denies the other, either neither can be asked, for the same error, or they answer
the opposite, also where nothing stands at the field. The two sides of a bound answer the opposite
just where a value stands at the field that has an order to the argument; anywhere else both say
no. -/
theorem pairs_answer_opposite (c : Config) (field : Name) (w : FilterValue) (op op' : Operator)
    (one other : Criteria) (v v' : Conversion) (hone : one.filters = [⟨field, op, w⟩])
    (hother : other.filters = [⟨field, op', w⟩]) (hv : one.convert c = .ok v)
    (hv' : other.convert c = .ok v') (d : Document) :
    (op.Denies op' →
      Opposite (d.satisfies v.query.predicate) (d.satisfies v'.query.predicate))
    ∧ (op.Sides op' →
      OppositeWhere (Predicate.Comparable (d.at? field.text) (w.argument c.encoding))
        (d.satisfies v.query.predicate) (d.satisfies v'.query.predicate)) := by
  obtain ⟨g, hg, hpredicate⟩ := predicate_of_single hone hv
  obtain ⟨g', hg', hpredicate'⟩ := predicate_of_single hother hv'
  rw [hpredicate, hpredicate']
  constructor
  · intro h
    obtain ⟨p, q, hp, hq, hdenied⟩ := Filter.denied_of_denies h hg hg'
    rw [hp, hq]
    exact hdenied.opposite field.text d
  · intro h
    obtain ⟨p, q, hp, hq, hdivided⟩ := Filter.divided_of_sides h hg hg'
    rw [hp, hq]
    exact hdivided.opposite field.text d

def motto : Name := ⟨"motto", by decide⟩

def mottoIs (op : Operator) (text : String) : Criteria :=
  ⟨[⟨motto, op, ⟨text, .string text, .scalar (.string text)⟩⟩], .unordered, none, none⟩

/-- A text that is no pattern is refused by both searches; a truth value is on neither side of a text. -/
theorem pairs_answer_opposite_motto :
    ∃ search denial above below, (mottoIs .contains "(").convert .default = .ok search
      ∧ (mottoIs .notContains "(").convert .default = .ok denial
      ∧ (mottoIs .greater "m").convert .default = .ok above
      ∧ (mottoIs .lessOrEqual "m").convert .default = .ok below
      ∧ Operator.Denies .contains .notContains ∧ Operator.Sides .greater .lessOrEqual
      ∧ Opposite (Document.satisfies [] search.query.predicate)
        (Document.satisfies [] denial.query.predicate)
      ∧ OppositeWhere (Predicate.Comparable (some (.boolean true)) (.string "m"))
        (Document.satisfies [("motto", .boolean true)] above.query.predicate)
        (Document.satisfies [("motto", .boolean true)] below.query.predicate)
      ∧ ¬ Predicate.Comparable (some (.boolean true)) (.string "m")
      ∧ Document.satisfies [("motto", .boolean true)] above.query.predicate = .ok false := by
  let converted (op : Operator) (text : String) (condition : Document) : Conversion :=
    .ofMerged ⟨[("motto", .document condition)], [], []⟩ .default (mottoIs op text)
  have hsearch : (mottoIs .contains "(").convert .default
      = .ok (converted .contains "(" [("$regex", .string "(")]) := rfl
  have hdenial : (mottoIs .notContains "(").convert .default
      = .ok (converted .notContains "(" [("$not", .document [("$regex", .string "(")])]) := rfl
  have habove : (mottoIs .greater "m").convert .default
      = .ok (converted .greater "m" [("$gt", .string "m")]) := rfl
  have hbelow : (mottoIs .lessOrEqual "m").convert .default
      = .ok (converted .lessOrEqual "m" [("$lte", .string "m")]) := rfl
  obtain ⟨hopposite, -⟩ := pairs_answer_opposite .default motto _ .contains .notContains _ _ _ _
    rfl rfl hsearch hdenial []
  obtain ⟨-, hwhere⟩ := pairs_answer_opposite .default motto _ .greater .lessOrEqual _ _ _ _
    rfl rfl habove hbelow [("motto", .boolean true)]
  have hat : Document.at? [("motto", .boolean true)] motto.text = some (.boolean true) := by cbv
  have hfalse : Document.satisfies [("motto", .boolean true)]
      [("motto", .document [("$gt", .string "m")])] = .ok false := by cbv
  rw [hat] at hwhere
  refine ⟨_, _, _, _, hsearch, hdenial, habove, hbelow, .contains, .above, hopposite .contains,
    hwhere .above, ?_, hfalse⟩
  rintro ⟨x, hx, o, ho⟩
  cases hx
  cases ho

end Criteria

end DocQuery
