import DocQuery.Proofs.Store.Paging

/-!
The next page that a page names. With a limit above zero it is there just when the result goes on
past what the page shows, so going from page to page comes to an end. A limit of zero shows all there
is, but the next page is told from the limit alone: unless nothing is found, such a page names a next
one, and so does every page after it.
-/
namespace DocQuery

namespace Store

theorem length_cut (skip limit : UInt64) (listed : List Document) :
    (cut skip limit listed).length
      = if limit = 0 then listed.length - skip.toNat
        else min limit.toNat (listed.length - skip.toNat) := by
  unfold cut
  split <;> simp

theorem map_cut (f : Document → Document) (skip limit : UInt64) (listed : List Document) :
    (cut skip limit listed).map f = cut skip limit (listed.map f) := by
  unfold cut
  split <;> simp

end Store

/-- Skipping to a page, at most as far as a word counts, and showing up to a limit leaves something
over just when all pages up to it do. -/
theorem skip_add_shown_lt_iff {page limit total bound : Nat} (hpage : 1 ≤ page)
    (htotal : total ≤ bound) :
    min ((page - 1) * limit) bound + min limit (total - min ((page - 1) * limit) bound) < total
      ↔ page * limit < total := by
  have hpages : page * limit = (page - 1) * limit + limit := by
    rw [← Nat.succ_mul]
    congr 1
    omega
  omega

namespace Page

/-- A page, found past a skip, names the page with the number after its own if it does not come up to
the total, and no page otherwise. -/
structure Truthful (skip number : UInt64) (p : Page) : Prop where
  more : skip.toNat + p.items.length < p.total.toNat →
    ∃ n, p.next = some n ∧ n.toNat = number.toNat + 1
  last : ¬ skip.toNat + p.items.length < p.total.toNat → p.next = none

theorem nextPage_zero (page total : UInt64) :
    nextPage (some page) (some 0) total
      = if total = 0 then none else some (saturate (page.toNat + 1)) := by
  have hpos : (0 : UInt64) < total ↔ total ≠ 0 := by
    rw [UInt64.lt_iff_toNat_lt, ← UInt64.toNat_inj.ne]
    exact Nat.pos_iff_ne_zero
  have hzero : saturate (page.toNat * (0 : UInt64).toNat) = 0 := by
    rw [← UInt64.toNat_inj, toNat_saturate, UInt64.toNat_zero, Nat.mul_zero, Nat.zero_min]
  simp only [nextPage, hzero, hpos]
  by_cases h : total = 0 <;> simp [h]

end Page

namespace Repository

variable {r r' : Repository} {registry : Registry} {refuses : Refusal} {filters : List Filter}
  {order : Order} {limit page : UInt64} {found : List Document}

def skipped (limit page : UInt64) : UInt64 := saturate ((page.toNat - 1) * limit.toNat)

theorem skipped_zero (page : UInt64) : skipped 0 page = 0 := by
  rw [skipped, ← UInt64.toNat_inj, toNat_saturate, UInt64.toNat_zero, Nat.mul_zero, Nat.zero_min]

theorem items_pageOf_eq_cut (r : Repository) (filters : List Filter) (order : Order)
    (limit page : UInt64) (found : List Document) :
    (r.pageOf ⟨filters, order, some limit, some page⟩ found).items
      = Store.cut (skipped limit page) limit (r.listed order found) :=
  Store.map_cut _ _ _ _

theorem skipped_add_shown_lt_iff (order : Order) (hsize : found.length < UInt64.size)
    (hlimit : limit ≠ 0) (hpage : 1 ≤ page) :
    (skipped limit page).toNat
        + (Store.cut (skipped limit page) limit (r.listed order found)).length < found.length
      ↔ page.toNat * limit.toNat < found.length := by
  have hone : 1 ≤ page.toNat := UInt64.le_iff_toNat_le.mp hpage
  have hbound : found.length ≤ Word.maxWord64 := by
    unfold UInt64.size at hsize
    unfold Word.maxWord64
    omega
  rw [Store.length_cut, if_neg hlimit, length_listed, skipped, toNat_saturate]
  exact skip_add_shown_lt_iff hone hbound

theorem truthful_pageOf (r : Repository) (filters : List Filter) (order : Order)
    (hsize : found.length < UInt64.size) (hlimit : limit ≠ 0) (hpage : 1 ≤ page) :
    (r.pageOf ⟨filters, order, some limit, some page⟩ found).Truthful (skipped limit page) page := by
  have hpiece := isPiece_pageOf r filters order page hsize
    (Nat.pos_of_ne_zero (UInt64.toNat_inj.ne.mpr hlimit))
  have hover := skipped_add_shown_lt_iff (r := r) order hsize hlimit hpage
  have hlength := length_listed r order found
  rw [← items_pageOf_eq_cut r filters order, ← hlength, ← hpiece.total] at hover
  refine ⟨fun h => hpiece.more ?_, fun h => hpiece.last ?_⟩
  · rw [← hpiece.total]
    exact hover.mp h
  · rw [← hpiece.total]
    exact Nat.le_of_not_lt fun hlt => h (hover.mpr hlt)

theorem items_pageOf_zero (r : Repository) (filters : List Filter) (order : Order)
    (page : UInt64) (found : List Document) :
    (r.pageOf ⟨filters, order, some 0, some page⟩ found).items = r.listed order found := by
  rw [items_pageOf_eq_cut, skipped_zero]
  rfl

theorem next_pageOf_zero (r : Repository) (filters : List Filter) (order : Order)
    (page : UInt64) (found : List Document) :
    (r.pageOf ⟨filters, order, some 0, some page⟩ found).next
      = if UInt64.ofNat found.length = 0 then none else some (saturate (page.toNat + 1)) :=
  Page.nextPage_zero page _

theorem truthful_pageOf_zero_iff (r : Repository) (filters : List Filter) (order : Order)
    (page : UInt64) (hsize : found.length < UInt64.size) :
    (r.pageOf ⟨filters, order, some 0, some page⟩ found).Truthful 0 page
      ↔ UInt64.ofNat found.length = 0 := by
  have htotal : (UInt64.ofNat found.length).toNat = found.length := UInt64.toNat_ofNat_of_lt' hsize
  have hnext := next_pageOf_zero r filters order page found
  have hcovered : ¬ (0 : UInt64).toNat
      + (r.pageOf ⟨filters, order, some 0, some page⟩ found).items.length
        < (UInt64.ofNat found.length).toNat := by
    rw [items_pageOf_zero, length_listed, htotal, UInt64.toNat_zero]
    omega
  constructor
  · intro h
    have hnone := h.last hcovered
    rw [hnext] at hnone
    by_contra hne
    rw [if_neg hne] at hnone
    cases hnone
  · intro h
    refine ⟨fun hover => absurd hover hcovered, fun _ => ?_⟩
    rw [hnext, if_pos h]

theorem Walk.total_eq_zero {ps : List Page} (hready : Ready r r' registry refuses)
    (hasked : r.asked filters = .ok found)
    (hwalk : Walk refuses filters order 0 r' registry page ps) :
    UInt64.ofNat found.length = 0 := by
  -- A walk has a last page, and without a limit a page is the last only if the total is zero.
  induction hwalk with
  | last h hnext =>
    rw [hready.result_search, hasked] at h
    cases h
    rw [next_pageOf_zero] at hnext
    by_contra hne
    rw [if_neg hne] at hnext
    cases hnext
  | more h hnext hrest ih => exact ih (hready.search _)

theorem walk_zero_of_total_eq_zero (hready : Ready r r' registry refuses)
    (hasked : r.asked filters = .ok found) (h : UInt64.ofNat found.length = 0) :
    ∃ ps, Walk refuses filters order 0 r' registry page ps := by
  refine ⟨_, .last (p := r.pageOf ⟨filters, order, some 0, some page⟩ found) ?_ ?_⟩
  · rw [hready.result_search, hasked]
    rfl
  · rw [next_pageOf_zero, if_pos h]

theorem truthful_pageOf_iff (r : Repository) (filters : List Filter) (order : Order)
    (hsize : found.length < UInt64.size) (hpage : 1 ≤ page) :
    (r.pageOf ⟨filters, order, some limit, some page⟩ found).Truthful (skipped limit page) page
      ↔ limit ≠ 0 ∨ UInt64.ofNat found.length = 0 := by
  by_cases hlimit : limit = 0
  · subst hlimit
    rw [skipped_zero, truthful_pageOf_zero_iff r filters order page hsize]
    simp
  · exact iff_of_true (truthful_pageOf r filters order hsize hlimit hpage) (.inl hlimit)

theorem exists_walk_iff (hready : Ready r r' registry refuses)
    (hasked : r.asked filters = .ok found) (hsize : found.length < UInt64.size)
    (hpage : 1 ≤ page) :
    (∃ ps, Walk refuses filters order limit r' registry page ps)
      ↔ limit ≠ 0 ∨ UInt64.ofNat found.length = 0 := by
  by_cases hlimit : limit = 0
  · subst hlimit
    constructor
    · rintro ⟨ps, hwalk⟩
      exact .inr (hwalk.total_eq_zero hready hasked)
    · rintro (hne | htotal)
      · exact absurd rfl hne
      · exact walk_zero_of_total_eq_zero hready hasked htotal
  · have hpos : 0 < limit.toNat := Nat.pos_of_ne_zero (UInt64.toNat_inj.ne.mpr hlimit)
    have hone : 1 ≤ page.toNat := UInt64.le_iff_toNat_le.mp hpage
    obtain ⟨ps, hwalk, -⟩ := exists_walk page hready hasked hsize hpos hone
    exact iff_of_true ⟨ps, hwalk⟩ (.inl hlimit)

theorem exists_whole (hready : Ready r r' registry refuses) (hasked : r.asked filters = .ok found)
    (order : Order) :
    ∃ whole, (r'.search registry refuses ⟨filters, order, none, none⟩).result = .ok whole
      ∧ whole.items = r.listed order found := by
  refine ⟨r.pageOf ⟨filters, order, none, none⟩ found, ?_, items_pageOf_whole r filters order found⟩
  rw [hready.result_search, hasked]
  rfl

/-- Every page with a number is a cut out of what the same search gives without limit and page. Its
next page is told rightly, and going on from it ends, unless the limit is zero and something is
found: then there is no end of next pages. -/
theorem truthful_iff_limit (r : Repository) (registry : Registry) (refuses : Refusal)
    (filters : List Filter) (order : Order) (limit page skip : UInt64) (p : Page)
    (hsize : r.store.documents.length < UInt64.size) (hpage : 1 ≤ page)
    (hskip : Criteria.offset ⟨filters, order, some limit, some page⟩ = some skip)
    (hp : (r.search registry refuses ⟨filters, order, some limit, some page⟩).result = .ok p) :
    (∃ whole, (r.search registry refuses ⟨filters, order, none, none⟩).result = .ok whole
      ∧ p.items = Store.cut skip limit whole.items ∧ p.total.toNat = whole.items.length
      ∧ (skip.toNat + p.items.length < p.total.toNat
        ↔ whole.items.drop (skip.toNat + p.items.length) ≠ []))
    ∧ (p.Truthful skip page ↔ limit ≠ 0 ∨ p.total = 0)
    ∧ ((∃ ps, Walk refuses filters order limit r registry page ps) ↔ limit ≠ 0 ∨ p.total = 0)
    ∧ (limit = 0 → p.total ≠ 0 → p.next = some (saturate (page.toNat + 1))) := by
  have hready := ready_of_result_search hp
  have hsearch := hp
  rw [hready.result_search, map_eq_ok_iff] at hsearch
  obtain ⟨found, hasked, rfl⟩ := hsearch
  obtain ⟨m, hm, hfound⟩ := asked_eq_ok_iff.mp hasked
  obtain rfl : skipped limit page = skip := Option.some.inj hskip
  have hlength : found.length < UInt64.size := Nat.lt_of_le_of_lt hfound.length_le hsize
  have htotal : (r.pageOf ⟨filters, order, some limit, some page⟩ found).total.toNat
      = (r.listed order found).length := by
    rw [length_listed]
    exact hfound.toNat_length hsize
  obtain ⟨whole, hwhole, hitems⟩ := exists_whole hready hasked order
  refine ⟨⟨whole, hwhole, ?_, ?_, ?_⟩, truthful_pageOf_iff r filters order hlength hpage,
    exists_walk_iff hready hasked hlength hpage, fun hlimit hne => ?_⟩
  · rw [hitems, items_pageOf_eq_cut]
  · rw [hitems, htotal]
  · rw [hitems, htotal, ← List.length_pos_iff, List.length_drop]
    omega
  · subst hlimit
    rw [next_pageOf_zero]
    exact if_neg hne

/-- Two people on pages of one: the first page names the second. -/
theorem truthful_iff_limit_people :
    ∃ p, (people.search [] (fun _ _ => false) ⟨joByAge.filters, joByAge.order, some 1, some 1⟩).result
        = .ok p
      ∧ p.Truthful 0 1 ∧ p.next = some 2 := by
  have hensured : (people.ensureIndexes [] fun _ _ => false).result = .ok true := rfl
  have hp := result_search hensured ⟨joByAge.filters, joByAge.order, some 1, some 1⟩
  rw [asked_joByAge] at hp
  obtain ⟨-, htruthful, -, -⟩ := truthful_iff_limit people [] _ joByAge.filters joByAge.order 1 1 0 _
    (by decide) (by decide) rfl hp
  exact ⟨_, hp, htruthful.mpr (.inl (by decide)), rfl⟩

/-- All people on a page without a limit: it names a second page, where nobody is left, and so on
without end. -/
theorem next_of_all_people :
    ∃ p, (people.search [] (fun _ _ => false) ⟨[], .unordered, some 0, some 1⟩).result = .ok p
      ∧ p.total = 3 ∧ p.items.length = 3 ∧ p.next = some 2
      ∧ ¬ ∃ ps, Walk (fun _ _ => false) [] .unordered 0 people [] 1 ps := by
  have hensured : (people.ensureIndexes [] fun _ _ => false).result = .ok true := rfl
  have hasked : people.asked [] = .ok [joAged30, annAged40, joanAged35] := rfl
  have hp := result_search hensured ⟨[], .unordered, some 0, some 1⟩
  rw [hasked] at hp
  refine ⟨_, hp, rfl, ?_, rfl, fun ⟨ps, hwalk⟩ => ?_⟩
  · rw [items_pageOf_zero, length_listed]
    rfl
  · have hzero := hwalk.total_eq_zero (.refl hensured) hasked
    exact absurd hzero (by decide)

end Repository

end DocQuery
