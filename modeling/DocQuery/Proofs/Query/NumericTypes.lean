import DocQuery.Proofs.Number.Whole
import DocQuery.Proofs.Query.Conversion
import DocQuery.Proofs.Text.Decimal

/-!
Integers below `2 ^ 53` have one text whatever type of number holds them. So filters that differ in
the types of such integers only are one and the same where scalars are compared as texts.
-/
namespace DocQuery

namespace Value

inductive HasValue : Value → Int → Prop where
  | int32 {k : Int32} {n : Int} (h : k.toInt = n) : HasValue (.int32 k) n
  | int64 {k : Int64} {n : Int} (h : k.toInt = n) : HasValue (.int64 k) n
  | double {x : Binary64} {n : Int} (h : x.HasValue n) : HasValue (.double x) n

/-- The number has every type that has room for it, and zero is a double of either sign. -/
structure HasAllTypes (n : Int) : Prop where
  int32 : Word.fitsInt32 n = true → (Value.int32 (Int32.ofInt n)).HasValue n
  int64 : (Value.int64 (Int64.ofInt n)).HasValue n
  double : (Value.double (Binary64.ofInt n)).HasValue n
  zeros (negative : Bool) : n = 0 → (Value.double (Binary64.zero negative)).HasValue n

/-- The same text, or integers of equal value, each of any type. -/
inductive SameItem : Value → Value → Prop where
  | text (s : String) : SameItem (.string s) (.string s)
  | number {v w : Value} {n : Int} (hn : n.natAbs < 2 ^ 53)
    (hv : v.HasValue n) (hw : w.HasValue n) : SameItem v w

inductive Retyped : Value → Value → Prop where
  | item {v w : Value} (h : SameItem v w) : Retyped v w
  | list {vs ws : List Value} (h : List.Forall₂ SameItem vs ws) : Retyped (.array vs) (.array ws)

variable {v w : Value} {vs ws : List Value} {n : Int}

theorem HasValue.naturalText_eq (h : v.HasValue n) (hn : n.natAbs < 2 ^ 53) :
    v.naturalText = toString n := by
  cases h with
  | int32 h | int64 h => exact congrArg toString h
  | double h => exact h.naturalText_eq hn

theorem hasAllTypes (hn : n.natAbs < 2 ^ 53) : HasAllTypes n where
  int32 h := by
    simp only [Word.fitsInt32, Bool.and_eq_true, decide_eq_true_eq] at h
    have hlow : -2 ^ 31 ≤ n := by omega
    have hhigh : n < 2 ^ 31 := by omega
    exact .int32 (Int32.toInt_ofInt_of_le hlow hhigh)
  int64 := by
    have hlow : -2 ^ 63 ≤ n := by omega
    have hhigh : n < 2 ^ 63 := by omega
    exact .int64 (Int64.toInt_ofInt_of_le hlow hhigh)
  double := .double (Binary64.hasValue_ofInt hn)
  zeros negative h := h ▸ .double (Binary64.hasValue_zero negative)

namespace SameItem

theorem naturalText_eq (h : SameItem v w) : v.naturalText = w.naturalText := by
  cases h with
  | text s => rfl
  | number hn hv hw => rw [hv.naturalText_eq hn, hw.naturalText_eq hn]

theorem ofValue_eq (h : SameItem v w) :
    FilterValue.ofValue v = .ok ⟨v.naturalText, v, .scalar v⟩
      ∧ FilterValue.ofValue w = .ok ⟨w.naturalText, w, .scalar w⟩ := by
  cases h with
  | text s => exact ⟨rfl, rfl⟩
  | number hn hv hw =>
    constructor
    · cases hv <;> rfl
    · cases hw <;> rfl

theorem map_naturalText_eq (h : List.Forall₂ SameItem vs ws) :
    vs.map naturalText = ws.map naturalText := by
  induction h with
  | nil => rfl
  | cons h _ ih => rw [List.map_cons, List.map_cons, h.naturalText_eq, ih]

/-- No item is a document, so a list of them is never read as conditions. -/
theorem ofValue_array (h : List.Forall₂ SameItem vs ws) :
    FilterValue.ofValue (.array vs)
        = .ok ⟨",".intercalate (vs.map naturalText), .array vs, .list vs⟩
      ∧ FilterValue.ofValue (.array ws)
        = .ok ⟨",".intercalate (ws.map naturalText), .array ws, .list ws⟩ := by
  have hplain : startsWithTriple vs = false ∧ startsWithTriple ws = false := by
    cases h with
    | nil => exact ⟨rfl, rfl⟩
    | cons h _ =>
      cases h with
      | text s => exact ⟨rfl, rfl⟩
      | number hn hv hw =>
        constructor
        · cases hv <;> rfl
        · cases hw <;> rfl
  simp [FilterValue.ofValue, hplain]

end SameItem

/-- The text of the filter value does not show the types. -/
theorem Retyped.exists_ofValue (h : Retyped v w) : ∃ a b, FilterValue.ofValue v = .ok a
    ∧ FilterValue.ofValue w = .ok b ∧ a.canonical = b.canonical := by
  cases h with
  | item h =>
    obtain ⟨hv, hw⟩ := h.ofValue_eq
    exact ⟨_, _, hv, hw, h.naturalText_eq⟩
  | list h =>
    obtain ⟨hvs, hws⟩ := SameItem.ofValue_array h
    exact ⟨_, _, hvs, hws, congrArg ",".intercalate (SameItem.map_naturalText_eq h)⟩

end Value

namespace Filter

variable {f g : Filter}

/-- A simple operator sees nothing of its value but the text. -/
theorem fragment_eq_of_text (hfield : f.field = g.field) (hoperator : f.operator = g.operator)
    (hsimple : f.operator.isComposite = false) (htext : f.value.canonical = g.value.canonical) :
    f.fragment .canonical = g.fragment .canonical := by
  obtain ⟨field, op, a⟩ := f
  obtain ⟨field', op', b⟩ := g
  cases hfield
  cases hoperator
  cases op <;> simp_all [fragment, Operator.condition?, FilterValue.argument, Operator.isComposite]

/-- The two filters have the same text, and each compiles to what the other compiles to, whatever
other filters stand around it. -/
structure SameAsText (f g : Filter) : Prop where
  canonical : f.value.canonical = g.value.canonical
  compiles (c : Config) (order : Order) (limit page : Option UInt64) : c.encoding = .canonical →
    ∃ v, Criteria.convert ⟨[f], order, limit, page⟩ c = .ok v
  compiled (c : Config) (before after : List Filter) (order : Order) (limit page : Option UInt64) :
    c.encoding = .canonical →
    Criteria.convert ⟨before ++ f :: after, order, limit, page⟩ c
      = Criteria.convert ⟨before ++ g :: after, order, limit, page⟩ c

theorem convert_replace {c : Config} (h : f.fragment c.encoding = g.fragment c.encoding)
    (before after : List Filter) (order : Order) (limit page : Option UInt64) :
    Criteria.convert ⟨before ++ f :: after, order, limit, page⟩ c
      = Criteria.convert ⟨before ++ g :: after, order, limit, page⟩ c := by
  have hmerged : Merged.ofFilters c (before ++ f :: after)
      = Merged.ofFilters c (before ++ g :: after) := by
    simp only [Merged.ofFilters, List.mapM_append, List.mapM_cons, h]
  have hrest (m : Merged) : Conversion.ofMerged m c ⟨before ++ f :: after, order, limit, page⟩
      = Conversion.ofMerged m c ⟨before ++ g :: after, order, limit, page⟩ := by
    simp [Conversion.ofMerged, Query.ofMerged, Criteria.offset]
  simp only [Criteria.convert_eq_map, hmerged, hrest]

theorem exists_convert_singleton (hsimple : f.operator.isComposite = false) (c : Config)
    (order : Order) (limit page : Option UInt64) :
    ∃ v, Criteria.convert ⟨[f], order, limit, page⟩ c = .ok v := by
  cases h : Criteria.convert ⟨[f], order, limit, page⟩ c with
  | ok v => exact ⟨v, rfl⟩
  | error e =>
    obtain ⟨f', hf', e', hmisfit⟩ := Criteria.exists_convert_eq_error_iff.mp ⟨e, h⟩
    rw [List.mem_singleton.mp hf'] at hmisfit
    exact absurd hmisfit (not_misfit_of_simple hsimple)

theorem exists_of_retyped {v w : Value} (h : v.Retyped w) (field : Name) {op : Operator}
    (hsimple : op.isComposite = false) :
    ∃ f g, Filter.of field.text op v = .ok f ∧ Filter.of field.text op w = .ok g
      ∧ f.SameAsText g := by
  obtain ⟨a, b, ha, hb, htext⟩ := h.exists_ofValue
  have hf : Filter.of field.text op v = .ok ⟨field, op, a⟩ := by
    rw [Filter.of, Name.ofText_text, ha]
    rfl
  have hg : Filter.of field.text op w = .ok ⟨field, op, b⟩ := by
    rw [Filter.of, Name.ofText_text, hb]
    rfl
  refine ⟨_, _, hf, hg, htext, fun c order limit page _ => ?_,
    fun c before after order limit page hc => ?_⟩
  · exact exists_convert_singleton hsimple c order limit page
  · refine convert_replace ?_ before after order limit page
    rw [hc]
    exact fragment_eq_of_text rfl rfl hsimple htext

end Filter

/-- Below `2 ^ 53` an integer has one text in all numeric types, its shortest decimal text, and
minus zero is written as zero. So a simple filter on such a number, or on a list of such numbers and
texts, keeps its text and what it compiles to when numbers change their types. -/
theorem small_integers_written_alike :
    (∀ n : Int, n.natAbs < 2 ^ 53 → Value.HasAllTypes n ∧ Text.MinimalDecimal (toString n) n
        ∧ ∀ v : Value, v.HasValue n → v.naturalText = toString n)
      ∧ ∀ (field : Name) (op : Operator) (v w : Value), op.isComposite = false → v.Retyped w →
        ∃ f g, Filter.of field.text op v = .ok f ∧ Filter.of field.text op w = .ok g
          ∧ f.SameAsText g := by
  refine ⟨fun n hn => ?_, fun field op v w hop h => Filter.exists_of_retyped h field hop⟩
  exact ⟨Value.hasAllTypes hn, Text.minimalDecimal_toString n, fun v hv => hv.naturalText_eq hn⟩

/-- Minus zero, and the age of eighteen in a list as two types. -/
theorem small_integers_written_alike_ages :
    (Value.double (Binary64.zero true)).naturalText = "0"
      ∧ (Value.double (Binary64.ofInt 18)).naturalText = "18"
      ∧ Text.MinimalDecimal "18" 18
      ∧ ∃ f g, Filter.of "age" .greater (.array [.int32 18, .string "x"]) = .ok f
        ∧ Filter.of "age" .greater (.array [.double (Binary64.ofInt 18), .string "x"]) = .ok g
        ∧ f.SameAsText g := by
  obtain ⟨htexts, hfilters⟩ := small_integers_written_alike
  obtain ⟨hzero, -, hzeros⟩ := htexts 0 (by decide)
  obtain ⟨hall, hminimal, heighteens⟩ := htexts 18 (by decide)
  refine ⟨hzeros _ (hzero.zeros true rfl), heighteens _ hall.double, hminimal, ?_⟩
  have hage : Value.SameItem (.int32 18) (.double (Binary64.ofInt 18)) :=
    .number (by decide) (hall.int32 rfl) hall.double
  exact hfilters ⟨"age", by decide⟩ .greater _ _ rfl
    (.list (.cons hage (.cons (.text "x") .nil)))

end DocQuery
