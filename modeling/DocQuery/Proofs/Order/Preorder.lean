import DocQuery.Proofs.Order.Documents
import Mathlib.Data.List.Forall2

/-!
The laws that sorting relies on, written out for the order of values and for the orders of
documents, and what becomes of an order of documents whose directions are all turned around.
-/
namespace DocQuery

/-- The laws of a total preorder, for a comparison that tells less, greater and tied apart. -/
structure IsPreorder {α : Type} (cmp : α → α → Ordering) : Prop where
  swap : ∀ a b, cmp b a = (cmp a b).swap
  refl : ∀ a, cmp a a = .eq
  trans : ∀ a b c, cmp a b ≠ .gt → cmp b c ≠ .gt → cmp a c ≠ .gt
  tie_trans : ∀ a b c, cmp a b = .eq → cmp b c = .eq → cmp a c = .eq
  tie_left : ∀ a b c, cmp a b = .eq → cmp a c = cmp b c
  tie_right : ∀ a b c, cmp a b = .eq → cmp c a = cmp c b

theorem isPreorder_of_transCmp {α : Type} (cmp : α → α → Ordering) [Std.TransCmp cmp] :
    IsPreorder cmp where
  swap _ _ := Std.OrientedCmp.eq_swap
  refl _ := Std.ReflCmp.compare_self
  trans a b c hab hbc := by
    have hle : (cmp a b).isLE := Ordering.isLE_iff_ne_gt.mpr hab
    have hle' : (cmp b c).isLE := Ordering.isLE_iff_ne_gt.mpr hbc
    exact Ordering.isLE_iff_ne_gt.mp (Std.TransCmp.isLE_trans hle hle')
  tie_trans _ _ _ hab hbc := Std.TransCmp.eq_trans hab hbc
  tie_left _ _ _ hab := Std.TransCmp.congr_left hab
  tie_right _ _ _ hab := Std.TransCmp.congr_right hab

namespace Value

def IsSign (direction : Value) (sign : Int) : Prop :=
  direction.number? = some (Binary64.ofInt sign)

def Opposed (v w : Value) : Prop :=
  v.IsSign 1 ∧ w.IsSign (-1) ∨ v.IsSign (-1) ∧ w.IsSign 1

theorem IsSign.not_downwards {v : Value} (h : v.IsSign 1) : v.isDownwards = false := by
  have hone : (Binary64.ofInt 1).belowZero = false := by decide +kernel
  rw [isDownwards, h, Option.any_some, hone]

theorem IsSign.downwards {v : Value} (h : v.IsSign (-1)) : v.isDownwards = true := by
  have hminus : (Binary64.ofInt (-1)).belowZero = true := by decide +kernel
  rw [isDownwards, h, Option.any_some, hminus]

theorem Opposed.isDownwards {v w : Value} (h : v.Opposed w) :
    w.isDownwards = !v.isDownwards := by
  rcases h with ⟨hv, hw⟩ | ⟨hv, hw⟩
  · rw [hv.not_downwards, hw.downwards]
    rfl
  · rw [hv.downwards, hw.not_downwards]
    rfl

end Value

namespace Document

/-- The same paths in the same places, each the other way up. -/
def Flips (sort other : Document) : Prop :=
  List.Forall₂ (fun e f => f.1 = e.1 ∧ e.2.Opposed f.2) sort other

theorem compareAt_swap {v w : Value} (h : w.isDownwards = !v.isDownwards) (path : String)
    (a b : Document) : compareAt path w a b = (compareAt path v a b).swap := by
  unfold compareAt
  rw [h]
  cases v.isDownwards <;> simp

/-- A key that ties hands over to the next one either way, so turning each key turns the whole. -/
theorem Flips.compareBy_eq_swap {sort other : Document} (h : Flips sort other) (a b : Document) :
    compareBy other a b = (compareBy sort a b).swap := by
  induction h with
  | nil => rfl
  | @cons e f sort other hef _ ih =>
    obtain ⟨path, v⟩ := e
    obtain ⟨path', w⟩ := f
    obtain ⟨rfl, hopposed⟩ := hef
    rw [compareBy, compareBy, Ordering.swap_then, ih, compareAt_swap hopposed.isDownwards]

end Document

/-- Values and documents are sorted by total preorders, whatever the keys and directions of the sort
document. So what is sorted comes out in order. Between 1 and -1, turning all directions around turns
the order around. -/
theorem compare_compareBy_isPreorder :
    IsPreorder Value.compare
    ∧ ∀ sort : Document,
      IsPreorder (Document.compareBy sort)
      ∧ (∀ ds, (Document.sorted sort ds).Perm ds
        ∧ (Document.sorted sort ds).Pairwise fun a b => Document.compareBy sort a b ≠ .gt)
      ∧ ∀ other, Document.Flips sort other →
        ∀ a b, Document.compareBy other a b = (Document.compareBy sort a b).swap := by
  refine ⟨isPreorder_of_transCmp _, fun sort => ⟨isPreorder_of_transCmp _, fun ds => ?_,
    fun other hflips a b => hflips.compareBy_eq_swap a b⟩⟩
  refine ⟨Document.sorted_perm sort ds, (Document.pairwise_sorted sort ds).imp fun h => ?_⟩
  exact Ordering.isLE_iff_ne_gt.mp h

namespace Document

def byYearThenTitle : Document := [("year", .int32 (-1)), ("title", .double (Binary64.ofInt 1))]

def byYearThenTitleFlipped : Document :=
  [("year", .decimal (.finite false 10 (-1))), ("title", .int64 (-1))]

/-- A book without a year comes last where years go down, and first where they go up. -/
theorem compareBy_flipped_years :
    Flips byYearThenTitle byYearThenTitleFlipped
      ∧ compareBy byYearThenTitle [("title", .string "Emma")] [("year", .int32 1815)] = .gt
      ∧ compareBy byYearThenTitleFlipped [("title", .string "Emma")] [("year", .int32 1815)]
        = .lt := by
  have hyear : Value.Opposed (.int32 (-1)) (.decimal (.finite false 10 (-1))) :=
    .inr ⟨rfl, congrArg some (by decide +kernel)⟩
  have htitle : Value.Opposed (.double (Binary64.ofInt 1)) (.int64 (-1)) := .inl ⟨rfl, rfl⟩
  have hflips : Flips byYearThenTitle byYearThenTitleFlipped :=
    .cons ⟨rfl, hyear⟩ (.cons ⟨rfl, htitle⟩ .nil)
  have hdown : compareBy byYearThenTitle [("title", .string "Emma")] [("year", .int32 1815)]
      = .gt := by decide +kernel
  refine ⟨hflips, hdown, ?_⟩
  rw [(compare_compareBy_isPreorder.2 byYearThenTitle).2.2 _ hflips, hdown]
  rfl

end Document

end DocQuery
