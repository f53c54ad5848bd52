import DocQuery.Bson.Value
import Mathlib.Data.List.Nodup

/-!
Documents in which no key stands twice. Insertion keeps them so, and their entries are what a look
up of each key finds.
-/
namespace DocQuery.Document

variable {d : Document} {key k : String} {value v : Value}

theorem keys_insert (d : Document) (key : String) (value : Value) :
    (d.insert key value).keys = if key ∈ d.keys then d.keys else d.keys ++ [key] := by
  induction d with
  | nil => rfl
  | cons e rest ih =>
    obtain ⟨k, v⟩ := e
    by_cases h : k = key
    · simp [insert, keys, h]
    · have hne : ¬ key = k := fun he => h he.symm
      have hrest : (insert ((k, v) :: rest) key value).keys
          = k :: (insert rest key value).keys := by simp [insert, keys, h]
      rw [hrest, ih]
      by_cases hmem : key ∈ keys rest <;> simp_all [keys]

theorem nodup_keys_insert (h : d.keys.Nodup) : (d.insert key value).keys.Nodup := by
  rw [keys_insert]
  split
  next => exact h
  next hnot =>
    rw [← List.concat_eq_append]
    exact h.concat hnot

/-- The entries are what a look up of each key in turn finds. -/
theorem eq_filterMap_keys (h : d.keys.Nodup) :
    d = d.keys.filterMap fun k => (d.get? k).map fun v => (k, v) := by
  induction d with
  | nil => rfl
  | cons e rest ih =>
    obtain ⟨k, v⟩ := e
    obtain ⟨hfirst, hrest⟩ : k ∉ keys rest ∧ (keys rest).Nodup := List.nodup_cons.mp h
    have hsame : ∀ k' ∈ keys rest, (get? ((k, v) :: rest) k').map (fun w => (k', w))
        = (get? rest k').map fun w => (k', w) := by
      intro k' hk'
      have hne : k ≠ k' := fun he => hfirst (he ▸ hk')
      simp [get?, hne]
    have hkeys : keys ((k, v) :: rest) = k :: keys rest := rfl
    rw [hkeys, List.filterMap_cons, List.filterMap_congr hsame, ← ih hrest]
    simp [get?]

theorem mem_iff_get?_eq_some (h : d.keys.Nodup) : (k, v) ∈ d ↔ d.get? k = some v := by
  induction d with
  | nil => simp [get?]
  | cons e rest ih =>
    obtain ⟨k', v'⟩ := e
    obtain ⟨hfirst, hrest⟩ : k' ∉ keys rest ∧ (keys rest).Nodup := List.nodup_cons.mp h
    by_cases hk : k' = k
    · subst hk
      have hnot : (k', v) ∉ rest := fun hmem => hfirst (List.mem_map_of_mem hmem)
      simp [get?, hnot, eq_comm]
    · have hne : ¬ k = k' := fun he => hk he.symm
      simp [get?, hk, hne, ih hrest]

end DocQuery.Document
