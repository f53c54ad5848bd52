import DocQuery.Proofs.Bson.Equivalence
import DocQuery.Proofs.Filter.Meaning
import Mathlib.Logic.Relation

/-!
The laws of equality, and what they mean for lists: the operators that look for a value in a list do
not see the order of the list, its repetitions, or which of several equal values stands in it.
-/
namespace DocQuery

namespace Value

/-- One change of a list: its elements in another order, one of them once more, or an equal value in
the place of one. -/
inductive Changes : List Value → List Value → Prop where
  | permute {xs ys : List Value} (h : xs.Perm ys) : Changes xs ys
  | duplicate {xs : List Value} {x : Value} (h : x ∈ xs) : Changes xs (x :: xs)
  | replace {x y : Value} (before after : List Value) (h : x.equal y = true) :
    Changes (before ++ x :: after) (before ++ y :: after)

abbrev SameElements : List Value → List Value → Prop := Relation.EqvGen Changes

variable {xs ys : List Value}

theorem Changes.any_equal (h : Changes xs ys) (v : Value) :
    xs.any (v.equal ·) = ys.any (v.equal ·) := by
  cases h with
  | permute h => exact h.any_eq
  | @duplicate _ x h =>
    rw [List.any_cons]
    cases hx : v.equal x with
    | true => exact List.any_eq_true.mpr ⟨x, h, hx⟩
    | false => rw [Bool.false_or]
  | replace before after h =>
    rw [List.any_append, List.any_append, List.any_cons, List.any_cons, equal_congr_right h]

theorem SameElements.any_equal (h : SameElements xs ys) (v : Value) :
    xs.any (v.equal ·) = ys.any (v.equal ·) := by
  induction h with
  | rel _ _ h => exact h.any_equal v
  | refl => rfl
  | symm _ _ _ ih => exact ih.symm
  | trans _ _ _ _ _ ih ih' => exact ih.trans ih'

end Value

namespace Predicate

def membership : List String := ["$in", "$nin"]

/-- No question of membership tells the lists apart. As part of a predicate a list can be refused for
a pattern inside it, but two answers are the same. -/
structure AskTheSame (xs ys : List Value) : Prop where
  operators (resolve : Resolver) (v : Option Value) : ∀ op ∈ membership,
    operatorHolds resolve v op (.array xs) = operatorHolds resolve v op (.array ys)
  answers (d : Document) (key : String) : ∀ op ∈ membership, ∀ b c,
    d.satisfies [(key, .document [(op, .array xs)])] = .ok b →
    d.satisfies [(key, .document [(op, .array ys)])] = .ok c → b = c

variable {xs ys : List Value} {op : String}

theorem operatorHolds_sameElements (h : Value.SameElements xs ys) (hop : op ∈ membership)
    (resolve : Resolver) (v : Option Value) :
    operatorHolds resolve v op (.array xs) = operatorHolds resolve v op (.array ys) := by
  have hin (op : String) : isIn v op (.array xs) = isIn v op (.array ys) := by
    simp only [isIn, h.any_equal]
  simp only [membership, List.mem_cons, List.not_mem_nil, or_false] at hop
  rcases hop with rfl | rfl
  · exact hin "$in"
  · exact congrArg (Except.map not) (hin "$nin")

theorem conditionHolds_sameElements (h : Value.SameElements xs ys) (hop : op ∈ membership)
    (resolve : Resolver) (v : Option Value) :
    conditionHolds resolve v (.document [(op, .array xs)])
      = conditionHolds resolve v (.document [(op, .array ys)]) := by
  have hop' : isDollar op = true ∧ op ≠ "$not" := by
    simp only [membership, List.mem_cons, List.not_mem_nil, or_false] at hop
    rcases hop with rfl | rfl <;> simp [isDollar]
  rw [conditionHolds_operator v _ hop'.1 hop'.2, conditionHolds_operator v _ hop'.1 hop'.2,
    operatorHolds_sameElements h hop]

theorem askTheSame (h : Value.SameElements xs ys) : AskTheSame xs ys where
  operators resolve v op hop := operatorHolds_sameElements h hop resolve v
  answers d key op hop b c hb hc := by
    rw [satisfies_condition, bind_eq_ok_iff] at hb hc
    obtain ⟨_, -, hb⟩ := hb
    obtain ⟨_, -, hc⟩ := hc
    rw [conditionHolds_sameElements h hop, hc] at hb
    exact (Except.ok.inj hb).symm

end Predicate

namespace Value

/-- Equality goes both ways and from one value to the next, and a value is equal to itself if it is
not NaN and has none inside. So lists that differ in order, in repetitions or by equal values have
the same members. -/
theorem equal_partial_equivalence :
    (∀ a b : Value, a.equal b = b.equal a)
      ∧ (∀ a b c : Value, a.equal b = true → b.equal c = true → a.equal c = true)
      ∧ (∀ a : Value, a.nanFree = true → a.equal a = true)
      ∧ ∀ xs ys, SameElements xs ys → Predicate.AskTheSame xs ys :=
  ⟨equal_comm, fun _ _ _ => equal_trans, fun _ => equal_self, fun _ _ => Predicate.askTheSame⟩

def oneInt : Value := .int32 1
def oneDouble : Value := .double (Binary64.ofInt 1)
def oneDecimal : Value := .decimal (.finite false 10 (-1))

def shelf : Value :=
  .document [("room", .array [.boolean true]), ("row", .double (Binary64.ofInt 4))]

def shelfTurned : Value :=
  .document [("row", .double (Binary64.ofInt 4)), ("room", .array [.boolean true])]

/-- A one of any type, a text as a symbol, and a document with its entries in another order. -/
theorem equal_partial_equivalence_shelf :
    oneInt.equal oneDecimal = true
      ∧ shelf.equal shelf = true
      ∧ shelfTurned.equal shelf = true
      ∧ Predicate.AskTheSame [oneInt, .string "x", shelf]
          [shelfTurned, .symbol "x", oneDouble, oneDouble] := by
  obtain ⟨hcomm, htrans, hself, hlists⟩ := equal_partial_equivalence
  have hfirst : oneInt.equal oneDouble = true := by decide +kernel
  have hsecond : oneDouble.equal oneDecimal = true := by decide +kernel
  have hturned : shelf.equal shelfTurned = true := by decide +kernel
  have hone : SameElements [oneInt, .string "x", shelf] [oneDouble, .string "x", shelf] :=
    .rel _ _ (.replace [] _ hfirst)
  have htwice : SameElements [oneDouble, .string "x", shelf]
      [oneDouble, oneDouble, .string "x", shelf] :=
    .rel _ _ (.duplicate (by simp))
  have htext : SameElements [oneDouble, oneDouble, .string "x", shelf]
      [oneDouble, oneDouble, .symbol "x", shelf] :=
    .rel _ _ (.replace [oneDouble, oneDouble] _ (by decide +kernel))
  have hshelf : SameElements [oneDouble, oneDouble, .symbol "x", shelf]
      [oneDouble, oneDouble, .symbol "x", shelfTurned] :=
    .rel _ _ (.replace [oneDouble, oneDouble, .symbol "x"] [] hturned)
  have horder : SameElements [oneDouble, oneDouble, .symbol "x", shelfTurned]
      [shelfTurned, .symbol "x", oneDouble, oneDouble] :=
    .rel _ _ (.permute (List.reverse_perm _).symm)
  refine ⟨htrans _ _ _ hfirst hsecond, hself _ (by decide +kernel), ?_, hlists _ _ ?_⟩
  · rw [hcomm]
    exact hturned
  · exact hone.trans _ _ _ (htwice.trans _ _ _ (htext.trans _ _ _ (hshelf.trans _ _ _ horder)))

end Value

end DocQuery
