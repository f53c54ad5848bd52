import Mathlib.Data.List.Induction
import Mathlib.Data.List.Nodup

/-!
Lists that keep only the first of each item, and what they leave out.
-/
namespace DocQuery

section Firsts

variable {α : Type} [BEq α] [LawfulBEq α]

theorem eraseDups_concat (l : List α) (x : α) :
    (l ++ [x]).eraseDups = if x ∈ l then l.eraseDups else l.eraseDups ++ [x] := by
  rw [List.eraseDups_append, List.cons_removeAll]
  by_cases h : x ∈ l <;> simp [h, List.eraseDups_cons]

theorem nodup_eraseDups (l : List α) : l.eraseDups.Nodup := by
  induction l using List.reverseRecOn with
  | nil => exact List.nodup_nil
  | append_singleton l x ih =>
    rw [eraseDups_concat]
    split
    next => exact ih
    next h =>
      have hnot : x ∉ l.eraseDups := by rwa [List.mem_eraseDups]
      rw [← List.concat_eq_append]
      exact ih.concat hnot

end Firsts

section Repeats

variable {α : Type} [DecidableEq α]

/-- The items that stand in the list before, in order, once for each time they come again. -/
def repeats (l : List α) : List α :=
  (l.zipIdx.filter fun e => e.1 ∈ l.take e.2).map Prod.fst

theorem repeats_concat (l : List α) (x : α) :
    repeats (l ++ [x]) = if x ∈ l then repeats l ++ [x] else repeats l := by
  have hbefore : l.zipIdx.filter (fun e => e.1 ∈ (l ++ [x]).take e.2)
      = l.zipIdx.filter (fun e => e.1 ∈ l.take e.2) := by
    apply List.filter_congr
    intro e he
    have hplace : e.2 ≤ l.length := Nat.le_of_lt (by simpa using List.snd_lt_of_mem_zipIdx he)
    rw [List.take_append_of_le_length hplace]
  have hlast : (l ++ [x]).take l.length = l := List.take_left
  have hzip : (l ++ [x]).zipIdx = l.zipIdx ++ [(x, l.length)] := by
    simp [List.zipIdx_append]
  unfold repeats
  rw [hzip, List.filter_append, hbefore]
  by_cases h : x ∈ l
  · simp [h, hlast]
  · simp [h, hlast]

/-- Every item is either the first of its kind or comes again. -/
theorem length_eraseDups_add_repeats (l : List α) :
    l.eraseDups.length + (repeats l).length = l.length := by
  induction l using List.reverseRecOn with
  | nil => rfl
  | append_singleton l x ih =>
    rw [eraseDups_concat, repeats_concat, List.length_append, List.length_singleton]
    by_cases h : x ∈ l
    · rw [if_pos h, if_pos h, List.length_append, List.length_singleton]
      omega
    · rw [if_neg h, if_neg h, List.length_append, List.length_singleton]
      omega

end Repeats

end DocQuery
