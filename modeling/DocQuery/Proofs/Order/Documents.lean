import DocQuery.Proofs.Order.Values
import DocQuery.Store.Sorting

/-!
The order of documents by a sort document is a total preorder, whatever the paths and directions.
Sorting by it gives the same documents in order, and those that tie as they stood before.
-/
namespace DocQuery

instance : Std.TransCmp Value.comparePresent where
  eq_swap {a b} := by
    cases a with
    | none => cases b <;> rfl
    | some x =>
      cases b with
      | none => rfl
      | some y => exact (Std.OrientedCmp.eq_swap : x.compare y = (y.compare x).swap)
  isLE_trans {a b c} hab hbc := by
    cases a with
    | none => cases c <;> rfl
    | some x =>
      cases b with
      | none => simp [Value.comparePresent] at hab
      | some y =>
        cases c with
        | none => simp [Value.comparePresent] at hbc
        | some z =>
          have hxz : (x.compare z).isLE := Std.TransCmp.isLE_trans (b := y) hab hbc
          exact hxz

namespace Document

instance (path : String) (direction : Value) : Std.TransCmp (compareAt path direction) where
  eq_swap {a b} := by
    have h : Value.comparePresent (a.at? path) (b.at? path)
        = (Value.comparePresent (b.at? path) (a.at? path)).swap := Std.OrientedCmp.eq_swap
    by_cases hd : direction.isDownwards <;> simp [compareAt, hd, ← h]
  isLE_trans {a b c} hab hbc := by
    by_cases hd : direction.isDownwards
    · simp only [compareAt, hd, if_true, ← Std.OrientedCmp.eq_swap] at hab hbc ⊢
      exact Std.TransCmp.isLE_trans hbc hab
    · simp only [compareAt, hd, Bool.false_eq_true, if_false] at hab hbc ⊢
      exact Std.TransCmp.isLE_trans hab hbc

instance (sort : Document) : Std.TransCmp (compareBy sort) := by
  induction sort with
  | nil => exact { eq_swap := rfl, isLE_trans := fun _ _ => rfl }
  | cons e rest ih =>
    obtain ⟨path, direction⟩ := e
    change Std.TransCmp (compareLex (compareAt path direction) (compareBy rest))
    infer_instance

variable {sort : Document}

theorem isLE_compareBy_trans (a b c : Document) (hab : (compareBy sort a b).isLE)
    (hbc : (compareBy sort b c).isLE) : (compareBy sort a c).isLE :=
  Std.TransCmp.isLE_trans hab hbc

theorem isLE_compareBy_total (a b : Document) :
    (compareBy sort a b).isLE || (compareBy sort b a).isLE := by
  have h : compareBy sort b a = (compareBy sort a b).swap := Std.OrientedCmp.eq_swap
  rw [h]
  cases compareBy sort a b <;> rfl

theorem sorted_perm (sort : Document) (ds : List Document) : (sorted sort ds).Perm ds :=
  List.mergeSort_perm ds _

theorem pairwise_sorted (sort : Document) (ds : List Document) :
    (sorted sort ds).Pairwise fun a b => (compareBy sort a b).isLE :=
  List.pairwise_mergeSort isLE_compareBy_trans isLE_compareBy_total ds

def ties (sort d other : Document) : Bool := compareBy sort d other == .eq

/-- The documents that tie with `d` are not moved past each other. -/
theorem filter_ties_sorted (sort d : Document) (ds : List Document) :
    (sorted sort ds).filter (ties sort d) = ds.filter (ties sort d) := by
  have htied : (ds.filter (ties sort d)).Pairwise fun a b => (compareBy sort a b).isLE := by
    refine List.pairwise_of_forall_mem_list fun a ha b hb => ?_
    have hda : compareBy sort d a = .eq := by simpa [ties] using (List.mem_filter.mp ha).2
    have hdb : compareBy sort d b = .eq := by simpa [ties] using (List.mem_filter.mp hb).2
    rw [← Std.TransCmp.congr_left hda, hdb]
    rfl
  have hsub : (ds.filter (ties sort d)).Sublist (sorted sort ds) :=
    List.sublist_mergeSort isLE_compareBy_trans isLE_compareBy_total htied List.filter_sublist
  have hsub' := hsub.filter (ties sort d)
  rw [List.filter_filter] at hsub'
  simp only [Bool.and_self] at hsub'
  exact (hsub'.eq_of_length ((sorted_perm sort ds).filter _).length_eq.symm).symm

theorem sorted_nil (ds : List Document) : sorted [] ds = ds := by
  refine List.mergeSort_of_pairwise (List.pairwise_of_forall_mem_list fun a _ b _ => ?_)
  rfl

end Document

end DocQuery
