import DocQuery.Proofs.Bson.Reflexive
import DocQuery.Proofs.Query.Evaluation
import DocQuery.Proofs.Store.Path
import Mathlib

/-!
Whether an equality finds the value it was made from. Where values keep their types a scalar is
found, for it is equal to itself. A list and a range are taken for their text, and no list is equal
to a text.
-/
namespace DocQuery

namespace Value

def isScalar : Value → Bool
  | .array _ => false
  | .document d => (Document.range? d).isNone
  | _ => true

theorem equal_string_of_not_scalar {v : Value} (h : v.isScalar = false) (s : String) :
    v.equal (.string s) = false := by
  cases v with
  | array items | document d => simp [equal, number?, text?, identical]
  | _ => cases h

end Value

namespace FilterValue

variable {v : Value} {w : FilterValue}

theorem argument_typed_of_not_scalar (h : ∀ raw, w.shape ≠ .scalar raw) :
    w.argument .typed = .string w.canonical := by
  cases hs : w.shape with
  | scalar raw => exact absurd hs (h raw)
  | list items | range start stop | conditions filters => simp [argument, hs]

theorem argument_typed (h : ofValue v = .ok w) :
    w.argument .typed = if v.isScalar then v else .string w.canonical := by
  cases v with
  | array items =>
    refine argument_typed_of_not_scalar fun raw hraw => ?_
    rw [ofValue] at h
    split at h
    · obtain ⟨filters, -, hw⟩ := bind_eq_ok_iff.mp h
      cases hw
      cases hraw
    · cases h
      cases hraw
  | document d =>
    rw [ofValue] at h
    split at h
    next start stop hrange =>
      cases h
      simp [argument, Value.isScalar, hrange]
    next hrange =>
      cases h
      simp [argument, Value.isScalar, hrange]
  | _ =>
    cases h
    rfl

end FilterValue

namespace Criteria

open Predicate

variable {c : Config} {f : Filter} {field : String} {v : Value} {criteria : Criteria}

theorem fragment_of_equal (h : f.operator = .equal) (encoding : ScalarEncoding) :
    f.fragment encoding
      = .ok ⟨f.field.text, .document [("$eq", f.value.argument encoding)]⟩ := by
  simp [Filter.fragment, Operator.condition?, h]

theorem convert_of_single {g : Fragment} (hfilters : criteria.filters = [f])
    (hg : f.fragment c.encoding = .ok g) :
    ∃ q, criteria.convert c = .ok q ∧ q.query.predicate = g.document := by
  have hm : Merged.ofFilters c [f] = .ok (Merged.ofFragments c.merge [g]) := by
    rw [Merged.ofFilters_eq_ok_iff]
    exact ⟨[g], .cons hg .nil, rfl⟩
  have hpredicate : (Merged.ofFragments c.merge [g]).predicate = g.document := by
    cases c.merge <;> rfl
  refine ⟨Conversion.ofMerged (Merged.ofFragments c.merge [g]) c criteria, ?_, hpredicate⟩
  rw [convert_eq_map, hfilters, hm]
  rfl

theorem holds_equality {m : Matcher} {a x : Value} {d : Document} (hne : field ≠ "")
    (hdot : '.' ∉ field.toList) (hdollar : isDollar field = false)
    (hm : Matcher.ofPredicate [(field, .document [("$eq", a)])] = .ok m)
    (hx : d.get? field = some x) : m.holds d = .ok (x.equal a) := by
  rw [Matcher.holds_eq_onDemand hm, entriesHold_path d hdollar, Document.at?_of_not_mem hne hdot,
    hx, conditionHolds_operator _ _ (isDollar_operator (by simp)) (by simp)]
  rfl

/-- Where values keep their types, an equality finds its own value just when that is a scalar. Any
other value is asked for by its canonical text. -/
theorem finds_own_value_iff_scalar (c : Config) (field : String) (v : Value) (f : Filter)
    (criteria : Criteria) (hc : c.encoding = .typed) (hf : Filter.of field .equal v = .ok f)
    (hfilters : criteria.filters = [f]) (hdot : '.' ∉ field.toList)
    (hdollar : isDollar field = false) (hv : v.nanFree = true) :
    ∃ q, criteria.convert c = .ok q ∧ ∀ m, Matcher.ofPredicate q.query.predicate = .ok m →
      m.holds [(field, v)] = .ok v.isScalar
      ∧ ∀ d x, d.get? field = some x →
        m.holds d = .ok (x.equal (if v.isScalar then v else .string f.value.canonical)) := by
  obtain ⟨name, hname, hf⟩ := bind_eq_ok_iff.mp hf
  obtain ⟨w, hw, hf⟩ := bind_eq_ok_iff.mp hf
  cases hf
  have hfield : field ≠ "" ∧ name.text = field := by
    unfold Name.ofText at hname
    split at hname
    next => cases hname
    next hne =>
      cases hname
      exact ⟨hne, rfl⟩
  obtain ⟨hne, htext⟩ := hfield
  obtain ⟨q, hq, hpredicate⟩ := convert_of_single hfilters (fragment_of_equal rfl c.encoding)
  refine ⟨q, hq, fun m hm => ?_⟩
  rw [hpredicate, Fragment.document, Fragment.entry, htext, hc, FilterValue.argument_typed hw] at hm
  have hfound := fun d x hx => holds_equality (d := d) (x := x) hne hdot hdollar hm hx
  refine ⟨?_, hfound⟩
  rw [hfound _ v (by simp [Document.get?])]
  cases hs : v.isScalar with
  | true => simpa using Value.equal_self hv
  | false => simpa using Value.equal_string_of_not_scalar hs _

def typed : Config := { Config.default with encoding := .typed }

def address : Value :=
  .document [("city", .string "Oslo"), ("at", .array [.double ⟨0x404df5c28f5c28f6⟩, .int32 10])]

/-- An address is found, with all that is inside it. -/
theorem finds_own_value_iff_scalar_address :
    ∃ f q m, Filter.of "address" .equal address = .ok f
      ∧ convert ⟨[f], .unordered, none, none⟩ typed = .ok q
      ∧ Matcher.ofPredicate q.query.predicate = .ok m
      ∧ m.holds [("address", address)] = .ok true := by
  let f : Filter :=
    ⟨⟨"address", by decide⟩, .equal, ⟨address.naturalText, address, .scalar address⟩⟩
  let predicate : Document := [("address", .document [("$eq", address)])]
  have hf : Filter.of "address" .equal address = .ok f := rfl
  have hdollar : isDollar "address" = false := by simp [isDollar]
  have hnan : address.nanFree = true := by decide +kernel
  obtain ⟨q, hq, hfinds⟩ := finds_own_value_iff_scalar typed "address" address f
    ⟨[f], .unordered, none, none⟩ rfl hf rfl (by decide) hdollar hnan
  have hpredicate : q.query.predicate = predicate := by
    cases hq
    rfl
  have hm : Matcher.ofPredicate q.query.predicate = .ok ⟨predicate, []⟩ := by
    rw [hpredicate]
    rfl
  exact ⟨f, q, _, hf, hq, hm, (hfinds _ hm).1⟩

def letters : Value := .array [.string "a", .string "b"]

/-- A list is asked for by its text and so is not found where it stands. -/
theorem letters_not_found :
    ∃ f q m, Filter.of "letters" .equal letters = .ok f ∧ letters.nanFree = true
      ∧ convert ⟨[f], .unordered, none, none⟩ typed = .ok q
      ∧ q.query.predicate = [("letters", .document [("$eq", .string "a,b")])]
      ∧ Matcher.ofPredicate q.query.predicate = .ok m
      ∧ m.holds [("letters", letters)] = .ok false := by
  let f : Filter :=
    ⟨⟨"letters", by decide⟩, .equal, ⟨"a,b", letters, .list [.string "a", .string "b"]⟩⟩
  let predicate : Document := [("letters", .document [("$eq", .string "a,b")])]
  exact ⟨f, Conversion.ofMerged ⟨predicate, [], []⟩ typed ⟨[f], .unordered, none, none⟩,
    ⟨predicate, []⟩, by cbv, rfl, rfl, rfl, rfl, by cbv⟩

end Criteria

end DocQuery
