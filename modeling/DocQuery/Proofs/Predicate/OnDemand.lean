import DocQuery.Proofs.Predicate.Patterns
import Mathlib

/-!
Patterns that are read up front against patterns that are read when they are applied. The texts
collected from a predicate cover all that an evaluation asks for, on every way through the predicate,
so a matcher never misses one; what is left to fail is the form of the predicate.
-/
namespace DocQuery

/-- The causes that lie in how a predicate is built, whatever its patterns are. -/
inductive Broken.OfForm : Broken → Prop where
  | topLevelOperator (key : String) : OfForm (.topLevelOperator key)
  | notAnArray (key : String) : OfForm (.notAnArray key)
  | notDocuments (key : String) : OfForm (.notDocuments key)
  | patternOperand : OfForm .patternOperand
  | predicateOperator (key : String) : OfForm (.predicateOperator key)

/-- An evaluation fails for the form of the predicate, or for one of these texts that is refused as
a pattern, and for nothing else. -/
def FailsFor (r : Predicate.Resolver) (texts : List String) (x : Except Error Bool) : Prop :=
  FailsOnly (fun e => (∃ cause : Broken, cause.OfForm ∧ e = .internal cause)
    ∨ ∃ t ∈ texts, r t = .error e) x

namespace FailsFor

variable {r : Predicate.Resolver} {texts more : List String} {x : Except Error Bool}

theorem ok (b : Bool) : FailsFor r texts (.ok b) := FailsOnly.ok b

theorem form {cause : Broken} (h : cause.OfForm) : FailsFor r texts (.error (.internal cause)) :=
  FailsOnly.error (.inl ⟨cause, h, rfl⟩)

theorem map (h : FailsFor r texts x) (f : Bool → Bool) : FailsFor r texts (x.map f) :=
  FailsOnly.map h f

theorem mono (h : FailsFor r texts x) (hsub : texts ⊆ more) : FailsFor r more x := by
  refine FailsOnly.mono h fun e he => he.imp_right ?_
  rintro ⟨t, ht, hrefused⟩
  exact ⟨t, hsub ht, hrefused⟩

theorem bind {f : Bool → Except Error Bool} (hx : FailsFor r texts x)
    (hf : ∀ b, FailsFor r more (f b)) : FailsFor r (texts ++ more) (x >>= f) :=
  FailsOnly.bind (hx.mono (List.subset_append_left _ _))
    fun b => (hf b).mono (List.subset_append_right _ _)

theorem both {y : Except Error Bool} (hx : FailsFor r texts x) (hy : FailsFor r more y) :
    FailsFor r (texts ++ more) (x >>= fun b => if b then y else .ok false) :=
  hx.bind fun b => by
    cases b with
    | true => exact hy
    | false => exact .ok false

theorem either {y : Except Error Bool} (hx : FailsFor r texts x) (hy : FailsFor r more y) :
    FailsFor r (texts ++ more) (x >>= fun b => if b then .ok true else y) :=
  hx.bind fun b => by
    cases b with
    | true => exact .ok true
    | false => exact hy

end FailsFor

namespace Predicate

variable {r : Resolver}

theorem isIn_failsFor (v : Option Value) (op : String) (arg : Value) (texts : List String) :
    FailsFor r texts (isIn v op arg) := by
  cases arg with
  | array items => exact .ok _
  | _ => exact .form (.notAnArray op)

theorem isFound_failsFor (v : Option Value) (arg : Value) :
    FailsFor r (patternsUnder "$regex" arg) (isFound r v arg) := by
  cases arg with
  | string pattern =>
    rw [isFound]
    cases v.bind Value.text? with
    | none => exact .ok false
    | some text =>
      intro e he
      exact .inr ⟨pattern, by simp [patternsUnder], map_eq_error_iff.mp he⟩
  | _ => exact .form .patternOperand

theorem operatorHolds_failsFor (v : Option Value) (op : String) (arg : Value) :
    FailsFor r (patternsUnder op arg) (operatorHolds r v op arg) := by
  unfold operatorHolds
  split
  case h_7 => exact isIn_failsFor v _ arg _
  case h_8 => exact (isIn_failsFor v _ arg _).map not
  case h_9 => exact isFound_failsFor v arg
  case h_10 => exact .form (.predicateOperator _)
  all_goals exact .ok _

mutual
theorem conditionHolds_failsFor (v : Option Value) (key : String) (c : Value) :
    FailsFor r (patternsUnder key c) (conditionHolds r v c) := by
  cases c with
  | document d =>
    rw [conditionHolds, patternsUnder]
    split
    · exact operatorsHold_failsFor v d
    · exact .ok _
  | _ => exact .ok _

theorem operatorsHold_failsFor (v : Option Value) (ops : List (String × Value)) :
    FailsFor r (patterns ops) (operatorsHold r v ops) := by
  match ops with
  | [] => exact .ok true
  | (op, arg) :: rest =>
    have hrest := operatorsHold_failsFor v rest
    rw [operatorsHold, patterns]
    split
    · exact ((conditionHolds_failsFor v op arg).map not).both hrest
    · exact (operatorHolds_failsFor v op arg).both hrest
end

mutual
/-- An evaluation fails for the form of its predicate or for one of its patterns. -/
theorem entriesHold_failsFor (d : Document) (p : List (String × Value)) :
    FailsFor r (patterns p) (entriesHold r d p) := by
  match p with
  | [] => exact .ok true
  | (key, condition) :: rest =>
    rw [entriesHold_cons, entriesHold_singleton, patterns]
    refine .both ?_ (entriesHold_failsFor d rest)
    split
    · exact someBranch_failsFor d key condition
    · split
      · exact everyBranch_failsFor d key condition
      · split
        · exact .form (.topLevelOperator key)
        · exact conditionHolds_failsFor (d.at? key) key condition

theorem someBranch_failsFor (d : Document) (key : String) (c : Value) :
    FailsFor r (patternsUnder key c) (someBranch r d key c) := by
  cases c with
  | array branches =>
    rw [someBranch, patternsUnder]
    split
    · exact someHolds_failsFor d branches
    · exact .form (.notDocuments key)
  | _ => exact .form (.notAnArray key)

theorem everyBranch_failsFor (d : Document) (key : String) (c : Value) :
    FailsFor r (patternsUnder key c) (everyBranch r d key c) := by
  cases c with
  | array branches =>
    rw [everyBranch, patternsUnder]
    split
    · exact everyHolds_failsFor d branches
    · exact .form (.notDocuments key)
  | _ => exact .form (.notAnArray key)

theorem someHolds_failsFor (d : Document) (branches : List Value) :
    FailsFor r (itemPatterns branches) (someHolds r d branches) := by
  match branches with
  | [] => exact .ok false
  | branch :: rest =>
    cases branch with
    | document p =>
      rw [someHolds, itemPatterns]
      exact (entriesHold_failsFor d p).either (someHolds_failsFor d rest)
    | _ => exact .ok false

theorem everyHolds_failsFor (d : Document) (branches : List Value) :
    FailsFor r (itemPatterns branches) (everyHolds r d branches) := by
  match branches with
  | [] => exact .ok true
  | branch :: rest =>
    cases branch with
    | document p =>
      rw [everyHolds, itemPatterns]
      exact (entriesHold_failsFor d p).both (everyHolds_failsFor d rest)
    | _ => exact .ok true
end

end Predicate

namespace Matcher

open Predicate

variable {p : Document} {m : Matcher}

/-- All patterns of a matcher were read, so only the form of its predicate can fail. -/
theorem form_of_holds_error (h : ofPredicate p = .ok m) {d : Document} {e : Error}
    (he : m.holds d = .error e) : ∃ cause : Broken, cause.OfForm ∧ e = .internal cause := by
  rw [holds_eq_onDemand h] at he
  rcases entriesHold_failsFor d p e he with hform | ⟨t, ht, hrefused⟩
  · exact hform
  · have hreadable : Readable t := exists_ofPredicate_iff.mp ⟨m, h⟩ t ht
    obtain ⟨q, hq⟩ := readable_iff.mp hreadable
    rw [hq] at hrefused
    cases hrefused

/-- A predicate is accepted when each of its patterns can be read, wherever it stands. Its matcher
then gives for every document what an evaluation gives that reads a pattern when it applies it, be it
an answer or a failure. A failure lies in the form of the predicate, and no pattern is ever found to
be missing. -/
theorem holds_as_read_on_demand (p : Document) :
    ((∃ m, ofPredicate p = .ok m) ↔ ∀ t ∈ Predicate.patterns p, Readable t)
    ∧ ∀ m, ofPredicate p = .ok m → ∀ d : Document,
      m.holds d = entriesHold onDemand d p
      ∧ (∀ e, m.holds d = .error e → ∃ cause : Broken, cause.OfForm ∧ e = .internal cause)
      ∧ ∀ t, m.holds d ≠ .error (.internal (.patternNotCompiled t)) := by
  refine ⟨exists_ofPredicate_iff, fun m h d => ?_⟩
  refine ⟨holds_eq_onDemand h d, fun e he => form_of_holds_error h he, fun t ht => ?_⟩
  obtain ⟨cause, hform, hcause⟩ := form_of_holds_error h ht
  cases hcause
  cases hform

def nested : Document :=
  [("$or", .array
    [.document [("nickname", .document [("$not", .document [("$regex", .string "^jo")])])],
     .document [("$and", .array [.document [("nickname", .document [("$regex", .string "n$")])]])]]),
   ("age", .document [("$size", .int32 1)])]

/-- Both patterns are applied to one text; then the other one gets as far as the operator. -/
theorem holds_as_read_on_demand_nested :
    ∃ m, ofPredicate nested = .ok m
      ∧ entriesHold onDemand [("nickname", .string "johnny")] nested = .ok false
      ∧ m.holds [("nickname", .string "johnny")] = .ok false
      ∧ ∃ e, m.holds [("nickname", .string "jon")] = .error e
        ∧ ∃ cause : Broken, cause.OfForm ∧ e = .internal cause := by
  obtain ⟨m, hm⟩ : ∃ m, ofPredicate nested = .ok m :=
    ⟨⟨nested, [("^jo", .seq [.look .start, .literal ['j', 'o']]),
      ("n$", .seq [.literal ['n'], .look .stop])]⟩, by cbv⟩
  obtain ⟨-, h⟩ := holds_as_read_on_demand nested
  obtain ⟨hjohnny, -, -⟩ := h m hm [("nickname", .string "johnny")]
  obtain ⟨hjon, hform, -⟩ := h m hm [("nickname", .string "jon")]
  have hfalse : entriesHold onDemand [("nickname", .string "johnny")] nested = .ok false := by cbv
  have herror : m.holds [("nickname", .string "jon")]
      = .error (.internal (.predicateOperator "$size")) := by
    rw [hjon]
    cbv
  exact ⟨m, hm, hfalse, hjohnny.trans hfalse, _, herror, hform _ herror⟩

end Matcher

end DocQuery
