import DocQuery.Proofs.FirstOccurrences
import DocQuery.Proofs.Query.Merge

/-!
What a merge policy keeps: all filters, or the last of each key, in the order in which the keys first
come. The merged predicate asks for what is kept, one after another.
-/
namespace DocQuery

/-- The last item of each key, in the order in which the keys first come. -/
def lastOfEach {α : Type} (key : α → String) (items : List α) : List α :=
  (items.map key).eraseDups.filterMap (lastWith? key items)

def MergePolicy.kept {α : Type} (policy : MergePolicy) (key : α → String) (items : List α) :
    List α :=
  match policy with
  | conjunction => items
  | lastWriteWins => lastOfEach key items

section Kept

variable {α β : Type} {key : α → String} {key' : β → String} {R : α → β → Prop} {items : List α}
  {others : List β} {x : α}

theorem mem_of_mem_lastOfEach (h : x ∈ lastOfEach key items) : x ∈ items := by
  obtain ⟨k, -, hk⟩ := List.mem_filterMap.mp h
  exact mem_of_lastWith? hk

theorem MergePolicy.mem_of_mem_kept (policy : MergePolicy) (h : x ∈ policy.kept key items) :
    x ∈ items := by
  cases policy with
  | lastWriteWins => exact mem_of_mem_lastOfEach h
  | conjunction => exact h

theorem map_eq_of_forall₂ (h : List.Forall₂ R items others)
    (hkey : ∀ x y, R x y → key' y = key x) : others.map key' = items.map key := by
  induction h with
  | nil => rfl
  | @cons x y xs ys hxy _ ih => rw [List.map_cons, List.map_cons, hkey x y hxy, ih]

theorem forall₂_filterMap {f : String → Option α} {g : String → Option β}
    (h : ∀ k, Option.Rel R (f k) (g k)) (ks : List String) :
    List.Forall₂ R (ks.filterMap f) (ks.filterMap g) := by
  induction ks with
  | nil => exact .nil
  | cons k rest ih =>
    have hk := h k
    rw [List.filterMap_cons, List.filterMap_cons]
    generalize f k = first, g k = first' at hk ⊢
    cases hk with
    | none => exact ih
    | some hxy => exact .cons hxy ih

theorem MergePolicy.forall₂_kept (policy : MergePolicy) (h : List.Forall₂ R items others)
    (hkey : ∀ x y, R x y → key' y = key x) :
    List.Forall₂ R (policy.kept key items) (policy.kept key' others) := by
  cases policy with
  | conjunction => exact h
  | lastWriteWins =>
    change List.Forall₂ R (lastOfEach key items) (lastOfEach key' others)
    unfold lastOfEach
    rw [map_eq_of_forall₂ h hkey]
    exact forall₂_filterMap (rel_lastWith? h hkey) _

theorem lastWith?_map (key : β → String) (f : α → β) (items : List α) (k : String) :
    lastWith? key (items.map f) k = (lastWith? (fun x => key (f x)) items k).map f := by
  rw [lastWith?, ← List.map_reverse, List.find?_map]
  rfl

theorem MergePolicy.kept_map (policy : MergePolicy) (key : β → String) (f : α → β)
    (items : List α) :
    policy.kept key (items.map f) = (policy.kept (fun x => key (f x)) items).map f := by
  cases policy with
  | conjunction => rfl
  | lastWriteWins =>
    change lastOfEach key (items.map f) = (lastOfEach (fun x => key (f x)) items).map f
    unfold lastOfEach
    rw [List.map_map, List.map_filterMap]
    exact List.filterMap_congr fun k _ => lastWith?_map key f items k

theorem MergePolicy.kept_congr (policy : MergePolicy) {key' : α → String}
    (h : ∀ x ∈ items, key x = key' x) : policy.kept key items = policy.kept key' items := by
  have hsame : List.Forall₂ (fun x y => x = y ∧ key' y = key x) items items :=
    List.forall₂_same.mpr fun x hx => ⟨rfl, (h x hx).symm⟩
  have hkept := policy.forall₂_kept hsame fun _ _ hxy => hxy.2
  exact List.forall₂_eq_eq_eq ▸ hkept.imp fun _ _ hxy => hxy.1

end Kept

namespace Merged

theorem keys_lastWrites (gs : List Fragment) :
    Document.keys (lastWrites gs).predicate = (gs.map Fragment.key).eraseDups := by
  induction gs using List.reverseRecOn with
  | nil => rfl
  | append_singleton gs g ih =>
    have hmem : g.key ∈ (gs.map Fragment.key).eraseDups ↔ g.key ∈ gs.map Fragment.key :=
      List.mem_eraseDups
    rw [lastWrites_concat, List.map_append, List.map_singleton, eraseDups_concat, ← ih]
    rw [← ih] at hmem
    simp only [predicate_write, Document.keys_insert, hmem]

theorem predicate_lastWrites (gs : List Fragment) :
    (lastWrites gs).predicate = (lastOfEach Fragment.key gs).map Fragment.entry := by
  rw [Document.eq_filterMap_keys (nodup_keys_lastWrites gs), keys_lastWrites, lastOfEach,
    List.map_filterMap]
  refine List.filterMap_congr fun k _ => ?_
  rw [get?_lastWrites, Option.map_map]
  cases hg : lastWith? Fragment.key gs k with
  | none => rfl
  | some g =>
    have hk : g.key = k := key_of_lastWith? hg
    subst hk
    rfl

open Predicate

variable {r : Resolver} {d : Document}

theorem everyHolds_documents (gs : List Fragment) :
    everyHolds r d (gs.map fun g => .document g.document)
      = entriesHold r d (gs.map Fragment.entry) := by
  induction gs with
  | nil => simp [everyHolds, entriesHold]
  | cons g rest ih =>
    rw [List.map_cons, List.map_cons, everyHolds, entriesHold_cons, ih]
    rfl

theorem entriesHold_conjunction (gs : List Fragment) :
    entriesHold r d (conjunction gs).predicate = entriesHold r d (gs.map Fragment.entry) := by
  unfold conjunction
  split
  next => rfl
  next =>
    have hall : (gs.map fun g => Value.document g.document).all isDocument = true := by
      simp [isDocument]
    rw [entriesHold_singleton]
    simp only [String.reduceEq, if_false, if_true, everyBranch, hall]
    exact everyHolds_documents gs

theorem itemPatterns_documents (gs : List Fragment) :
    itemPatterns (gs.map fun g => .document g.document) = patterns (gs.map Fragment.entry) := by
  induction gs with
  | nil => rfl
  | cons g rest ih =>
    have hone : patterns g.document = patternsUnder g.key g.condition := List.append_nil _
    rw [List.map_cons, itemPatterns, ih, hone]
    rfl

theorem patterns_conjunction (gs : List Fragment) :
    patterns (conjunction gs).predicate = patterns (gs.map Fragment.entry) := by
  unfold conjunction
  split
  next => rfl
  next =>
    rw [← itemPatterns_documents]
    exact List.append_nil _

/-- Merged fragments ask for those that are kept, under either policy. -/
theorem asks_for_kept {policy : MergePolicy} {gs : List Fragment} {m : Merged}
    (hm : m = if gs.isEmpty then empty else ofFragments policy gs) :
    (∀ r d, entriesHold r d m.predicate
      = entriesHold r d ((policy.kept Fragment.key gs).map Fragment.entry))
    ∧ patterns m.predicate = patterns ((policy.kept Fragment.key gs).map Fragment.entry) := by
  subst hm
  cases gs with
  | nil => cases policy <;> exact ⟨fun _ _ => rfl, rfl⟩
  | cons g rest =>
    cases policy with
    | conjunction => exact ⟨fun _ _ => entriesHold_conjunction _, patterns_conjunction _⟩
    | lastWriteWins =>
      have hpredicate := predicate_lastWrites (g :: rest)
      exact ⟨fun r d => congrArg (entriesHold r d) hpredicate, congrArg patterns hpredicate⟩

end Merged

end DocQuery
