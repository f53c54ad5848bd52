import DocQuery.Proofs.Bson.Entries
import DocQuery.Proofs.Filter.Fragment
import DocQuery.Proofs.Predicate.Patterns
import DocQuery.Query.Merge
import Mathlib

/-!
What the two merge policies mean: a conjunction asks for all filters, and where the last write wins,
for the last filter of each key.
-/
namespace DocQuery

def lastWith? {α : Type} (key : α → String) (items : List α) (k : String) : Option α :=
  items.reverse.find? fun x => key x == k

section LastWith

variable {α β : Type} {key : α → String} {items : List α} {k : String} {x : α}

theorem lastWith?_concat (key : α → String) (items : List α) (x : α) (k : String) :
    lastWith? key (items ++ [x]) k = if key x = k then some x else lastWith? key items k := by
  by_cases h : key x = k
  · simp [lastWith?, h]
  · simp [lastWith?, h]

theorem key_of_lastWith? (h : lastWith? key items k = some x) : key x = k := by
  simpa using List.find?_some h

theorem mem_of_lastWith? (h : lastWith? key items k = some x) : x ∈ items := by
  simpa using List.mem_of_find?_eq_some h

theorem lastWith?_key_of_nodup (hn : (items.map key).Nodup) (hx : x ∈ items) :
    lastWith? key items (key x) = some x := by
  cases hl : lastWith? key items (key x) with
  | none =>
    have hne : ∀ y ∈ items, key y ≠ key x := by simpa [lastWith?] using hl
    exact absurd rfl (hne x hx)
  | some y =>
    have hy : y = x := List.inj_on_of_nodup_map hn (mem_of_lastWith? hl) hx (key_of_lastWith? hl)
    rw [hy]

theorem forall_mem_iff_of_forall₂ {R : α → β → Prop} {P : α → Prop} {Q : β → Prop}
    {others : List β} (h : List.Forall₂ R items others) (hP : ∀ x y, R x y → (P x ↔ Q y)) :
    (∀ x ∈ items, P x) ↔ ∀ y ∈ others, Q y := by
  induction h with
  | nil => simp
  | @cons x y xs ys hxy _ ih => rw [List.forall_mem_cons, List.forall_mem_cons, hP x y hxy, ih]

theorem exists_mem_iff_of_forall₂ {R : α → β → Prop} {P : α → Prop} {Q : β → Prop}
    {others : List β} (h : List.Forall₂ R items others) (hP : ∀ x y, R x y → (P x ↔ Q y)) :
    (∃ x ∈ items, P x) ↔ ∃ y ∈ others, Q y := by
  induction h with
  | nil => simp
  | @cons x y xs ys hxy _ ih => simp only [List.exists_mem_cons_iff, hP x y hxy, ih]

/-- Lists that go together item by item, with equal keys, have last items that go together. -/
theorem rel_lastWith? {key' : β → String} {R : α → β → Prop} {others : List β}
    (h : List.Forall₂ R items others) (hkey : ∀ x y, R x y → key' y = key x) (k : String) :
    Option.Rel R (lastWith? key items k) (lastWith? key' others k) := by
  have hrev : List.Forall₂ R items.reverse others.reverse := List.forall₂_reverse_iff.mpr h
  unfold lastWith?
  generalize items.reverse = xs, others.reverse = ys at hrev
  induction hrev with
  | nil => exact .none
  | @cons x y xs ys hxy _ ih =>
    rw [List.find?_cons, List.find?_cons, hkey x y hxy]
    cases key x == k with
    | true => exact .some hxy
    | false => exact ih

theorem forall_lastWith?_iff {key' : β → String} {R : α → β → Prop} {P : α → Prop} {Q : β → Prop}
    {others : List β} (h : List.Forall₂ R items others) (hkey : ∀ x y, R x y → key' y = key x)
    (hP : ∀ x y, R x y → (P x ↔ Q y)) (k : String) :
    (∀ x ∈ lastWith? key items k, P x) ↔ ∀ y ∈ lastWith? key' others k, Q y := by
  have hrel := rel_lastWith? h hkey k
  generalize lastWith? key items k = last, lastWith? key' others k = last' at hrel ⊢
  cases hrel with
  | none => simp
  | some hxy => simpa using hP _ _ hxy

end LastWith

namespace Merged

variable {d : Document}

theorem lastWrites_concat (gs : List Fragment) (g : Fragment) :
    lastWrites (gs ++ [g]) = (lastWrites gs).write g := by
  simp [lastWrites]

theorem nodup_keys_lastWrites (gs : List Fragment) :
    (Document.keys (lastWrites gs).predicate).Nodup := by
  induction gs using List.reverseRecOn with
  | nil => exact List.nodup_nil
  | append_singleton gs g ih =>
    rw [lastWrites_concat, predicate_write]
    exact Document.nodup_keys_insert ih

/-- Under each key stands the condition of the last fragment with that key. -/
theorem get?_lastWrites (gs : List Fragment) (k : String) :
    Document.get? (lastWrites gs).predicate k
      = (lastWith? Fragment.key gs k).map Fragment.condition := by
  induction gs using List.reverseRecOn with
  | nil => rfl
  | append_singleton gs g ih =>
    rw [lastWrites_concat, lastWith?_concat]
    by_cases h : g.key = k
    · subst h
      simp [Document.get?_insert_self]
    · simp [Document.get?_insert_of_ne _ _ (Ne.symm h), h, ih]

theorem mem_lastWrites_iff {gs : List Fragment} {e : String × Value} :
    e ∈ (lastWrites gs).predicate ↔ ∃ g, lastWith? Fragment.key gs e.1 = some g ∧ g.entry = e := by
  obtain ⟨k, v⟩ := e
  rw [Document.mem_iff_get?_eq_some (nodup_keys_lastWrites gs), get?_lastWrites,
    Option.map_eq_some_iff]
  constructor
  · rintro ⟨g, hg, rfl⟩
    refine ⟨g, hg, ?_⟩
    rw [Fragment.entry, key_of_lastWith? hg]
  · rintro ⟨g, hg, he⟩
    exact ⟨g, hg, congrArg Prod.snd he⟩

theorem satisfies_lastWrites_iff (gs : List Fragment) :
    d.satisfies (lastWrites gs).predicate = .ok true
      ↔ ∀ k, ∀ g ∈ lastWith? Fragment.key gs k, d.satisfies g.document = .ok true := by
  rw [Document.satisfies_true_iff_entries]
  constructor
  · intro h k g hg
    have hk : g.key = k := key_of_lastWith? hg
    subst hk
    exact h g.entry (mem_lastWrites_iff.mpr ⟨g, hg, rfl⟩)
  · intro h e he
    obtain ⟨g, hg, rfl⟩ := mem_lastWrites_iff.mp he
    exact h _ g hg

theorem satisfies_conjunction_iff (gs : List Fragment) :
    d.satisfies (conjunction gs).predicate = .ok true
      ↔ ∀ g ∈ gs, d.satisfies g.document = .ok true := by
  unfold conjunction
  split
  next g => simp
  next =>
    have hmap : (gs.map fun g => Value.document g.document)
        = (gs.map Fragment.document).map Value.document := by simp
    rw [hmap, Document.satisfies_and_true_iff]
    simp

theorem ofFilters_eq_ok_iff {c : Config} {filters : List Filter} {m : Merged} :
    ofFilters c filters = .ok m ↔ ∃ gs,
      List.Forall₂ (fun f g => f.fragment c.encoding = .ok g) filters gs
        ∧ m = if gs.isEmpty then empty else ofFragments c.merge gs := by
  unfold ofFilters
  simp only [bind_eq_ok_iff, mapM_eq_ok_iff, pure, Except.pure, Except.ok.injEq, eq_comm (b := m)]

theorem satisfies_all_iff (gs : List Fragment) :
    d.satisfies (if gs.isEmpty then empty else ofFragments .conjunction gs).predicate = .ok true
      ↔ ∀ g ∈ gs, d.satisfies g.document = .ok true := by
  cases gs with
  | nil =>
    rw [Document.satisfies_true_iff_entries]
    simp [empty]
  | cons g gs => exact satisfies_conjunction_iff (g :: gs)

theorem satisfies_last_iff (gs : List Fragment) :
    d.satisfies (if gs.isEmpty then empty else ofFragments .lastWriteWins gs).predicate = .ok true
      ↔ ∀ k, ∀ g ∈ lastWith? Fragment.key gs k, d.satisfies g.document = .ok true := by
  cases gs with
  | nil => exact satisfies_lastWrites_iff []
  | cons g gs => exact satisfies_lastWrites_iff (g :: gs)

end Merged

namespace Filter

/-- The fragment of the filter, as a predicate of its own, is true of the document. -/
def HoldsAlone (f : Filter) (encoding : ScalarEncoding) (d : Document) : Prop :=
  ∃ g, f.fragment encoding = .ok g ∧ d.satisfies g.document = .ok true

theorem holdsAlone_iff {f : Filter} {encoding : ScalarEncoding} {g : Fragment} (d : Document)
    (h : f.fragment encoding = .ok g) :
    f.HoldsAlone encoding d ↔ d.satisfies g.document = .ok true := by
  simp [HoldsAlone, h]

end Filter

namespace Merged

/-- Filters that convert do so under both policies. A conjunction asks for every filter on its own,
the last write wins for the last one of each key. So the conjunction is the stronger of the two, and
they are the same where no key comes again. -/
theorem policies_iff_holdsAlone (c : Config) (filters : List Filter) (m : Merged)
    (h : ofFilters c filters = .ok m) :
    ∃ all last, ofFilters { c with merge := .conjunction } filters = .ok all
      ∧ ofFilters { c with merge := .lastWriteWins } filters = .ok last
      ∧ ∀ d : Document,
        (d.satisfies all.predicate = .ok true ↔ ∀ f ∈ filters, f.HoldsAlone c.encoding d)
        ∧ (d.satisfies last.predicate = .ok true
          ↔ ∀ k, ∀ f ∈ lastWith? Filter.key filters k, f.HoldsAlone c.encoding d)
        ∧ (d.satisfies all.predicate = .ok true → d.satisfies last.predicate = .ok true)
        ∧ ((filters.map Filter.key).Nodup →
          (d.satisfies all.predicate = .ok true ↔ d.satisfies last.predicate = .ok true)) := by
  obtain ⟨gs, hgs, -⟩ := ofFilters_eq_ok_iff.mp h
  refine ⟨_, _, ofFilters_eq_ok_iff.mpr ⟨gs, hgs, rfl⟩, ofFilters_eq_ok_iff.mpr ⟨gs, hgs, rfl⟩,
    fun d => ?_⟩
  have halone : ∀ (f : Filter) (g : Fragment), f.fragment c.encoding = .ok g →
      (f.HoldsAlone c.encoding d ↔ d.satisfies g.document = .ok true) :=
    fun _ _ hg => Filter.holdsAlone_iff d hg
  have hall := (satisfies_all_iff (d := d) gs).trans (forall_mem_iff_of_forall₂ hgs halone).symm
  have hlast := (satisfies_last_iff (d := d) gs).trans (forall_congr' fun k =>
    (forall_lastWith?_iff hgs (fun _ _ hfg => Filter.key_of_fragment hfg) halone k).symm)
  have hweaker : (∀ f ∈ filters, f.HoldsAlone c.encoding d) →
      ∀ k, ∀ f ∈ lastWith? Filter.key filters k, f.HoldsAlone c.encoding d :=
    fun hf k f hk => hf f (mem_of_lastWith? hk)
  refine ⟨hall, hlast, ?_, fun hn => ?_⟩
  · rw [hall, hlast]
    exact hweaker
  · rw [hall, hlast]
    refine ⟨hweaker, fun hl f hmem => ?_⟩
    exact hl f.key f (lastWith?_key_of_nodup hn hmem)

def titleIs (text : String) : Filter :=
  ⟨⟨"title", by decide⟩, .equal, ⟨text, .string text, .scalar (.string text)⟩⟩

def yearAfter (text : String) : Filter :=
  ⟨⟨"year", by decide⟩, .greater, ⟨text, .string text, .scalar (.string text)⟩⟩

def twoTitles : List Filter := [titleIs "Emma", yearAfter "1900", titleIs "Ulysses"]

def ulysses : Document := [("title", .string "Ulysses"), ("year", .string "1922")]

/-- The last write wins for one book, which the conjunction leaves out. -/
theorem policies_iff_holdsAlone_twoTitles :
    ∃ m, ofFilters .default twoTitles = .ok m
      ∧ ulysses.satisfies m.predicate = .ok true
      ∧ (∀ k, ∀ f ∈ lastWith? Filter.key twoTitles k, f.HoldsAlone .canonical ulysses)
      ∧ ¬ ∀ f ∈ twoTitles, f.HoldsAlone .canonical ulysses := by
  let m : Merged :=
    ⟨[("title", .document [("$eq", .string "Ulysses")]),
      ("year", .document [("$gt", .string "1900")])], ["title"], [warning "title"]⟩
  have hm : ofFilters .default twoTitles = .ok m := rfl
  obtain ⟨all, last, hall, hlast, h⟩ := policies_iff_holdsAlone .default twoTitles m hm
  obtain ⟨halone, hkeys, -, -⟩ := h ulysses
  have hm' : last = m := Except.ok.inj (hlast.symm.trans hm)
  have hholds : ulysses.satisfies m.predicate = .ok true := by cbv
  refine ⟨m, hm, hholds, hkeys.mp (hm' ▸ hholds), fun hf => ?_⟩
  have hall' : all = conjunction
      [⟨"title", .document [("$eq", .string "Emma")]⟩,
       ⟨"year", .document [("$gt", .string "1900")]⟩,
       ⟨"title", .document [("$eq", .string "Ulysses")]⟩] := Except.ok.inj (hall.symm.trans rfl)
  have hfails : ulysses.satisfies all.predicate = .ok false := by
    rw [hall']
    cbv
  have htrue := halone.mpr hf
  simp [hfails] at htrue

end Merged

end DocQuery
