import DocQuery.Proofs.Store.Search

/-!
Pages of a search. The saturating arithmetic of skips and next pages is exact as long as the store
has no more documents than a word can count, so the pages are the pieces of one list, and going from
each page to the next comes past all of them once.
-/
namespace DocQuery

theorem drop_min_of_length_le {α : Type} {l : List α} {bound : Nat} (n : Nat)
    (h : l.length ≤ bound) : l.drop (min n bound) = l.drop n := by
  rcases Nat.le_total n bound with hn | hn
  · rw [Nat.min_eq_left hn]
  · rw [Nat.min_eq_right hn, List.drop_eq_nil_of_le h, List.drop_eq_nil_of_le (by omega)]

theorem pieces_of_lt {done size total : Nat} (hsize : 0 < size) (h : done + size < total) :
    max 1 ((total - done + size - 1) / size)
      = max 1 ((total - (done + size) + size - 1) / size) + 1 := by
  have hsplit : total - done + size - 1 = total - (done + size) + size - 1 + size := by omega
  have hone : 1 ≤ (total - (done + size) + size - 1) / size :=
    (Nat.one_le_div_iff hsize).mpr (by omega)
  rw [hsplit, Nat.add_div_right _ hsize]
  omega

theorem pieces_of_le {done size total : Nat} (hsize : 0 < size) (h : total ≤ done + size) :
    max 1 ((total - done + size - 1) / size) = 1 := by
  have hlt : (total - done + size - 1) / size < 2 := (Nat.div_lt_iff_lt_mul hsize).mpr (by omega)
  omega

namespace Page

variable {limit total : UInt64}

theorem nextPage_of_le (page limit : UInt64) (h : total.toNat ≤ page.toNat * limit.toNat) :
    nextPage (some page) (some limit) total = none := by
  have hmax : total.toNat ≤ Word.maxWord64 := by
    have hlt := total.toNat_lt
    unfold Word.maxWord64
    omega
  have hnot : ¬ saturate (page.toNat * limit.toNat) < total := by
    rw [UInt64.lt_iff_toNat_lt, toNat_saturate]
    omega
  simp [nextPage, hnot]

theorem nextPage_of_lt (page : UInt64) (hlimit : 0 < limit.toNat)
    (h : page.toNat * limit.toNat < total.toNat) :
    ∃ n : UInt64, nextPage (some page) (some limit) total = some n
      ∧ n.toNat = page.toNat + 1 := by
  have hlt := total.toNat_lt
  have hpage : page.toNat ≤ page.toNat * limit.toNat := Nat.le_mul_of_pos_right _ hlimit
  have hmore : saturate (page.toNat * limit.toNat) < total := by
    rw [UInt64.lt_iff_toNat_lt, toNat_saturate]
    omega
  refine ⟨saturate (page.toNat + 1), by simp [nextPage, hmore], ?_⟩
  rw [toNat_saturate]
  unfold Word.maxWord64
  omega

end Page

namespace Repository

variable {r r' : Repository} {registry : Registry} {refuses : Refusal} {filters : List Filter}
  {order : Order} {limit page : UInt64} {found : List Document}

def listed (r : Repository) (order : Order) (found : List Document) : List Document :=
  (Store.arranged (order.sort r.config) found).map fun d => Document.erase d r.config.nativeIdentifier

theorem length_listed (r : Repository) (order : Order) (found : List Document) :
    (r.listed order found).length = found.length := by
  rw [listed, List.length_map, Store.length_arranged]

theorem items_pageOf_whole (r : Repository) (filters : List Filter) (order : Order)
    (found : List Document) :
    (r.pageOf ⟨filters, order, none, none⟩ found).items = r.listed order found := by
  rfl

/-- A page has the documents at its places in the whole list. -/
theorem items_pageOf (r : Repository) (filters : List Filter) (order : Order) (page : UInt64)
    (hsize : found.length < UInt64.size) (hlimit : 0 < limit.toNat) :
    (r.pageOf ⟨filters, order, some limit, some page⟩ found).items
      = ((r.listed order found).drop ((page.toNat - 1) * limit.toNat)).take limit.toNat := by
  have hne : limit ≠ 0 := by
    rintro rfl
    exact absurd hlimit (by decide)
  have hbound : (Store.arranged (order.sort r.config) found).length ≤ Word.maxWord64 := by
    rw [Store.length_arranged]
    unfold UInt64.size at hsize
    unfold Word.maxWord64
    omega
  simp only [pageOf, Criteria.offset, Option.getD_some, Store.cut, if_neg hne, toNat_saturate,
    drop_min_of_length_le _ hbound, listed, List.map_take, List.map_drop]

/-- `r'` has the documents and the configuration of `r`, and its indexes are not refused. -/
structure Ready (r r' : Repository) (registry : Registry) (refuses : Refusal) : Prop where
  config : r'.config = r.config
  documents : r'.store.documents = r.store.documents
  ensured : ∃ b, (r'.ensureIndexes registry refuses).result = .ok b

namespace Ready

theorem refl {b : Bool} (h : (r.ensureIndexes registry refuses).result = .ok b) :
    Ready r r registry refuses :=
  ⟨rfl, rfl, b, h⟩

theorem search (h : Ready r r' registry refuses) (criteria : Criteria) :
    Ready r (r'.search registry refuses criteria).repository
      (r'.search registry refuses criteria).registry refuses := by
  obtain ⟨b, hb⟩ := h.ensured
  obtain ⟨hrepository, hregistry⟩ := search_state r' registry refuses criteria
  rw [hrepository, hregistry]
  obtain ⟨hconfig, hdocuments⟩ := ensureIndexes_unchanged r' registry refuses
  exact ⟨hconfig.trans h.config, hdocuments.trans h.documents, false, ensureIndexes_again hb⟩

theorem result_search (h : Ready r r' registry refuses) (criteria : Criteria) :
    (r'.search registry refuses criteria).result
      = (r.asked criteria.filters).map (r.pageOf criteria) := by
  obtain ⟨b, hb⟩ := h.ensured
  have hasked : r'.asked criteria.filters = r.asked criteria.filters := by
    unfold asked
    rw [h.config]
    simp only [Store.matching_congr h.documents]
  have hpage : r'.pageOf criteria = r.pageOf criteria := by
    unfold pageOf
    rw [h.config]
  rw [Repository.result_search hb, hasked, hpage]

end Ready

/-- A search that gives a page had its indexes. -/
theorem ready_of_result_search {criteria : Criteria} {p : Page}
    (h : (r.search registry refuses criteria).result = .ok p) : Ready r r registry refuses := by
  cases hb : (r.ensureIndexes registry refuses).result with
  | ok b => exact .refl hb
  | error e => simp [search, hb] at h

/-- The piece of a list that a page shows. It names a next page while there is more. -/
structure IsPiece (l : List Document) (limit page : UInt64) (p : Page) : Prop where
  items : p.items = (l.drop ((page.toNat - 1) * limit.toNat)).take limit.toNat
  total : p.total.toNat = l.length
  last : l.length ≤ page.toNat * limit.toNat → p.next = none
  more : page.toNat * limit.toNat < l.length → ∃ n, p.next = some n ∧ n.toNat = page.toNat + 1

theorem isPiece_pageOf (r : Repository) (filters : List Filter) (order : Order) (page : UInt64)
    (hsize : found.length < UInt64.size) (hlimit : 0 < limit.toNat) :
    IsPiece (r.listed order found) limit page
      (r.pageOf ⟨filters, order, some limit, some page⟩ found) := by
  have htotal : (UInt64.ofNat found.length).toNat = found.length :=
    UInt64.toNat_ofNat_of_lt' hsize
  refine ⟨items_pageOf r filters order page hsize hlimit, ?_, fun h => ?_, fun h => ?_⟩
  · rw [length_listed]
    exact htotal
  · rw [length_listed] at h
    exact Page.nextPage_of_le page limit (by rw [htotal]; exact h)
  · rw [length_listed] at h
    exact Page.nextPage_of_lt page hlimit (by rw [htotal]; exact h)

/-- Every search of a repository that is ready gives its piece. -/
theorem Ready.exists_piece (h : Ready r r' registry refuses) (hasked : r.asked filters = .ok found)
    (hsize : found.length < UInt64.size) (hlimit : 0 < limit.toNat) (order : Order)
    (page : UInt64) :
    ∃ p, (r'.search registry refuses ⟨filters, order, some limit, some page⟩).result = .ok p
      ∧ IsPiece (r.listed order found) limit page p := by
  refine ⟨_, ?_, isPiece_pageOf r filters order page hsize hlimit⟩
  rw [h.result_search, hasked]
  rfl

/-- Searches at a page, then at the next page that each result names, up to one that names none. -/
inductive Walk (refuses : Refusal) (filters : List Filter) (order : Order) (limit : UInt64) :
    Repository → Registry → UInt64 → List Page → Prop where
  | last {r : Repository} {registry : Registry} {page : UInt64} {p : Page}
    (h : (r.search registry refuses ⟨filters, order, some limit, some page⟩).result = .ok p)
    (hnext : p.next = none) : Walk refuses filters order limit r registry page [p]
  | more {r : Repository} {registry : Registry} {page n : UInt64} {p : Page} {ps : List Page}
    (h : (r.search registry refuses ⟨filters, order, some limit, some page⟩).result = .ok p)
    (hnext : p.next = some n)
    (hrest : Walk refuses filters order limit
      (r.search registry refuses ⟨filters, order, some limit, some page⟩).repository
      (r.search registry refuses ⟨filters, order, some limit, some page⟩).registry n ps) :
    Walk refuses filters order limit r registry page (p :: ps)

theorem Walk.unique {ps qs : List Page} (hp : Walk refuses filters order limit r registry page ps)
    (hq : Walk refuses filters order limit r registry page qs) : qs = ps := by
  induction hp generalizing qs with
  | last h hnext =>
    cases hq with
    | last h' hnext' =>
      rw [h] at h'
      rw [Except.ok.inj h']
    | more h' hnext' hrest' =>
      rw [h] at h'
      rw [Except.ok.inj h', hnext'] at hnext
      cases hnext
  | more h hnext hrest ih =>
    cases hq with
    | last h' hnext' =>
      rw [h] at h'
      rw [Except.ok.inj h', hnext'] at hnext
      cases hnext
    | more h' hnext' hrest' =>
      rw [h] at h'
      cases Except.ok.inj h'
      rw [hnext] at hnext'
      cases hnext'
      rw [ih hrest']

/-- From any page on, the walk has what the pages before leave over, in pieces of the limit. -/
theorem exists_walk (page : UInt64) (hready : Ready r r' registry refuses)
    (hasked : r.asked filters = .ok found) (hsize : found.length < UInt64.size)
    (hlimit : 0 < limit.toNat) (hpage : 1 ≤ page.toNat) :
    ∃ ps, Walk refuses filters order limit r' registry page ps
      ∧ ps.length = max 1
        ((found.length - (page.toNat - 1) * limit.toNat + limit.toNat - 1) / limit.toNat)
      ∧ ps.flatMap Page.items
        = (r.listed order found).drop ((page.toNat - 1) * limit.toNat) := by
  generalize hleft : found.length - page.toNat * limit.toNat = left
  induction left using Nat.strongRecOn generalizing r' registry page with
  | _ left ih =>
    have hdone : page.toNat * limit.toNat = (page.toNat - 1) * limit.toNat + limit.toNat := by
      rw [← Nat.succ_mul]
      congr 1
      omega
    obtain ⟨p, hresult, hpiece⟩ := hready.exists_piece hasked hsize hlimit order page
    have hlength := length_listed r order found
    rcases Nat.lt_or_ge (page.toNat * limit.toNat) found.length with hlt | hle
    · obtain ⟨n, hnext, hn⟩ := hpiece.more (by rw [hlength]; exact hlt)
      have hn' : (n.toNat - 1) * limit.toNat = (page.toNat - 1) * limit.toNat + limit.toNat := by
        rw [hn, Nat.add_sub_cancel, hdone]
      obtain ⟨ps, hwalk, hcount, hrest⟩ := ih (found.length - n.toNat * limit.toNat)
        (by rw [hn, Nat.add_mul]; omega) n (hready.search _) (by omega) rfl
      refine ⟨p :: ps, .more hresult hnext hwalk, ?_, ?_⟩
      · rw [List.length_cons, hcount, hn']
        exact (pieces_of_lt hlimit (by omega)).symm
      · rw [List.flatMap_cons, hrest, hn', hpiece.items, ← List.drop_drop, List.take_append_drop]
    · have hnext := hpiece.last (by rw [hlength]; exact hle)
      refine ⟨[p], .last hresult hnext, ?_, ?_⟩
      · rw [pieces_of_le hlimit (by omega)]
        rfl
      · rw [List.flatMap_singleton, hpiece.items, List.take_of_length_le]
        rw [List.length_drop, hlength]
        omega

/-- Pages lose and repeat nothing. A page has what stands at its places in the whole result, however
far out it is, and the walk from the first page on is the only one, has one page for each piece of
the limit, and comes past the whole result in order. -/
theorem pages_partition (r : Repository) (registry : Registry) (refuses : Refusal)
    (filters : List Filter) (order : Order) (limit : UInt64) (whole : Page)
    (hsize : r.store.documents.length < UInt64.size) (hlimit : 1 ≤ limit)
    (hwhole : (r.search registry refuses ⟨filters, order, none, none⟩).result = .ok whole) :
    (∀ page : UInt64, 1 ≤ page → ∃ p,
      (r.search registry refuses ⟨filters, order, some limit, some page⟩).result = .ok p
        ∧ p.items
          = whole.items.extract ((page.toNat - 1) * limit.toNat) (page.toNat * limit.toNat)
        ∧ p.total = whole.total)
    ∧ (∃ ps, (∀ qs, Walk refuses filters order limit r registry 1 qs ↔ qs = ps)
      ∧ ps.length = max 1 ((whole.total.toNat + limit.toNat - 1) / limit.toNat)
      ∧ ps.flatMap Page.items = whole.items)
    ∧ whole.items.length = whole.total.toNat
    ∧ ∃ m found, Merged.ofFilters r.config filters = .ok m ∧ r.store.Finds m.predicate found
      ∧ whole.items.Perm (found.map fun d => Document.erase d r.config.nativeIdentifier) := by
  have hready := ready_of_result_search hwhole
  rw [hready.result_search, map_eq_ok_iff] at hwhole
  obtain ⟨found, hasked, rfl⟩ := hwhole
  obtain ⟨m, hm, hfound⟩ := asked_eq_ok_iff.mp hasked
  have hlength : found.length < UInt64.size := Nat.lt_of_le_of_lt hfound.length_le hsize
  have hpos : 0 < limit.toNat := UInt64.le_iff_toNat_le.mp hlimit
  have htotal : (UInt64.ofNat found.length).toNat = found.length := hfound.toNat_length hsize
  have hall := items_pageOf_whole r filters order found
  refine ⟨fun page hpage => ?_, ?_, ?_, m, found, hm, hfound, ?_⟩
  · have hone : 1 ≤ page.toNat := UInt64.le_iff_toNat_le.mp hpage
    have hplaces : page.toNat * limit.toNat - (page.toNat - 1) * limit.toNat = limit.toNat := by
      rw [← Nat.sub_mul, Nat.sub_sub_self hone, Nat.one_mul]
    obtain ⟨p, hresult, hpiece⟩ := hready.exists_piece hasked hlength hpos order page
    refine ⟨p, hresult, ?_, ?_⟩
    · rw [hpiece.items, hall, List.extract_eq_take_drop, hplaces]
    · rw [← UInt64.toNat_inj, hpiece.total, length_listed]
      exact htotal.symm
  · obtain ⟨ps, hwalk, hcount, hitems⟩ :=
      exists_walk 1 hready hasked hlength hpos (by decide)
    refine ⟨ps, fun qs => ⟨fun hqs => hwalk.unique hqs, fun hqs => hqs ▸ hwalk⟩, ?_, ?_⟩
    · simpa [pageOf, htotal] using hcount
    · simpa [hall] using hitems
  · rw [hall, length_listed]
    exact htotal.symm
  · rw [hall]
    exact (Store.inOrder_arranged _ found).perm.map _

/-- Two people on pages of one make a walk of two pages. -/
theorem pages_partition_people :
    ∃ whole, (people.search [] (fun _ _ => false) ⟨joByAge.filters, joByAge.order, none, none⟩).result
        = .ok whole
      ∧ ∃ ps, Walk (fun _ _ => false) joByAge.filters joByAge.order 1 people [] 1 ps
        ∧ ps.length = 2 ∧ ps.flatMap Page.items = whole.items := by
  have hensured : (people.ensureIndexes [] fun _ _ => false).result = .ok true := rfl
  have hwhole := result_search hensured ⟨joByAge.filters, joByAge.order, none, none⟩
  rw [asked_joByAge] at hwhole
  have hsize : people.store.documents.length < UInt64.size := by decide
  obtain ⟨-, ⟨ps, hwalk, hcount, hitems⟩, -, -⟩ :=
    pages_partition people [] _ joByAge.filters joByAge.order 1 _ hsize (by decide) hwhole
  exact ⟨_, hwhole, ps, (hwalk ps).mpr rfl, hcount, hitems⟩

end Repository

end DocQuery
