import DocQuery.Proofs.Store.Indexes
import DocQuery.Proofs.Store.Scan
import Mathlib

/-!
Searching and counting through a repository. Both come to the documents that the filters ask for;
indexes, order, limit and page do not change what these are.
-/
namespace DocQuery

theorem Criteria.convert_eq_map (criteria : Criteria) (c : Config) : criteria.convert c
    = (Merged.ofFilters c criteria.filters).map fun m => Conversion.ofMerged m c criteria := by
  unfold convert hasFilters
  cases h : criteria.filters with
  | nil => rfl
  | cons f rest =>
    cases hm : Merged.ofFilters c (f :: rest) <;>
      simp [bind, Except.bind, pure, Except.pure, Except.map]

namespace Store

theorem matching_congr {s t : Store} (h : s.documents = t.documents) (predicate : Document) :
    s.matching predicate = t.matching predicate := by
  unfold matching
  rw [h]

end Store

namespace Repository

variable {r : Repository} {registry : Registry} {refuses : Refusal}

def asked (r : Repository) (filters : List Filter) : Except Error (List Document) := do
  let m ← Merged.ofFilters r.config filters
  r.store.matching m.predicate

def pageOf (r : Repository) (criteria : Criteria) (found : List Document) : Page :=
  { items :=
      (Store.cut (criteria.offset.getD 0) (criteria.limit.getD 0)
        (Store.arranged (criteria.order.sort r.config) found)).map
          fun d => Document.erase d r.config.nativeIdentifier
    total := UInt64.ofNat found.length
    page := criteria.page
    next := Page.nextPage criteria.page criteria.limit (UInt64.ofNat found.length) }

theorem page_eq_matching (r : Repository) (criteria : Criteria) (m : Merged) :
    r.page criteria (Query.ofMerged m r.config criteria)
      = (r.store.matching m.predicate).map (r.pageOf criteria) := by
  have hpredicate : (Query.ofMerged m r.config criteria).predicate = m.predicate := rfl
  unfold page
  rw [Store.find_eq_matching, Store.count_eq_matching, hpredicate]
  cases r.store.matching m.predicate <;> rfl

theorem count_eq_asked (r : Repository) (criteria : Criteria) :
    (r.count criteria).result
      = (r.asked criteria.filters).map fun found => UInt64.ofNat found.length := by
  unfold count asked
  cases Merged.ofFilters r.config criteria.filters with
  | error e => rfl
  | ok m => exact Store.count_eq_matching r.store m.predicate

theorem count_of_convert_eq_error {criteria : Criteria} {e : Error}
    (h : criteria.convert r.config = .error e) : r.count criteria = ⟨[], .error e⟩ := by
  rw [Criteria.convert_eq_map, map_eq_error_iff] at h
  rw [count, h]

theorem log_count_of_convert {criteria : Criteria} {v : Conversion}
    (h : criteria.convert r.config = .ok v) : (r.count criteria).log = v.warnings := by
  rw [Criteria.convert_eq_map, map_eq_ok_iff] at h
  obtain ⟨m, hm, rfl⟩ := h
  rw [count, hm]
  rfl

/-- Once the indexes are there, a search is the page of what the filters ask for. -/
theorem result_search {b : Bool} (h : (r.ensureIndexes registry refuses).result = .ok b)
    (criteria : Criteria) : (r.search registry refuses criteria).result
      = (r.asked criteria.filters).map (r.pageOf criteria) := by
  obtain ⟨hconfig, hdocs⟩ := ensureIndexes_unchanged r registry refuses
  unfold search asked
  simp only [h, Criteria.convert_eq_map]
  cases Merged.ofFilters r.config criteria.filters with
  | error e => rfl
  | ok m =>
    generalize (r.ensureIndexes registry refuses).repository = r' at hconfig hdocs ⊢
    have hpage := page_eq_matching r' criteria m
    have hof : r'.pageOf criteria = r.pageOf criteria := by
      unfold pageOf
      rw [hconfig]
    rw [hconfig, hof, Store.matching_congr hdocs] at hpage
    exact hpage

theorem search_eq_error_iff {b : Bool} (h : (r.ensureIndexes registry refuses).result = .ok b)
    (criteria : Criteria) (e : Error) :
    (r.search registry refuses criteria).result = .error e ↔ (r.count criteria).result = .error e := by
  rw [result_search h, count_eq_asked, map_eq_error_iff, map_eq_error_iff]

theorem asked_eq_ok_iff {filters : List Filter} {found : List Document} :
    r.asked filters = .ok found
      ↔ ∃ m, Merged.ofFilters r.config filters = .ok m ∧ r.store.Finds m.predicate found := by
  simp only [asked, bind_eq_ok_iff, Store.matching_eq_ok_iff]

end Repository

/-- Finding and counting execute a query exactly. On a store they fail together, with the error of
the matcher or else of the first document without an answer; otherwise the documents found are cut
out of all that match, in order, and these are counted. Through a repository with its indexes,
searching and counting fail together too, and a page shows what is found of what is counted. -/
theorem find_count_search_exact :
    (∀ (s : Store) (q : Query),
      (∀ e, s.find q = .error e ↔ s.Fails q.predicate e)
      ∧ (∀ e, s.count q.predicate = .error e ↔ s.Fails q.predicate e)
      ∧ ((∃ items, s.find q = .ok items) ↔ ∃ found, s.Finds q.predicate found)
      ∧ ∀ found, s.Finds q.predicate found → ∃ listed,
        Store.InOrder q.sort found listed ∧ (q.sort = [] → listed = found)
        ∧ s.find q = .ok (Store.cut q.skip q.limit listed)
        ∧ s.count q.predicate = .ok (UInt64.ofNat listed.length)
        ∧ (s.documents.length < UInt64.size → (UInt64.ofNat listed.length).toNat = listed.length))
    ∧ ∀ (r : Repository) (registry : Registry) (refuses : Refusal) (criteria : Criteria) (b : Bool),
      (r.ensureIndexes registry refuses).result = .ok b →
      (∀ e, (r.search registry refuses criteria).result = .error e
        ↔ (r.count criteria).result = .error e)
      ∧ ∀ page, (r.search registry refuses criteria).result = .ok page → ∃ m found listed,
        Merged.ofFilters r.config criteria.filters = .ok m ∧ r.store.Finds m.predicate found
        ∧ Store.InOrder (criteria.order.sort r.config) found listed
        ∧ (r.count criteria).result = .ok page.total ∧ page.total = UInt64.ofNat listed.length
        ∧ (r.store.documents.length < UInt64.size → page.total.toNat = listed.length)
        ∧ page.items = (Store.cut (criteria.offset.getD 0) (criteria.limit.getD 0) listed).map
            fun d => d.filter fun e => e.1 != r.config.nativeIdentifier := by
  refine ⟨fun s q => ⟨fun e => Store.find_eq_error_iff, fun e => Store.count_eq_error_iff,
      Store.exists_find_eq_ok_iff, fun found hfound => ?_⟩,
    fun r registry refuses criteria b h =>
      ⟨fun e => Repository.search_eq_error_iff h criteria e, fun page hpage => ?_⟩⟩
  · have hlength := Store.length_arranged q.sort found
    refine ⟨_, Store.inOrder_arranged q.sort found, ?_, hfound.find_eq, ?_, ?_⟩
    · intro hsort
      rw [hsort]
      rfl
    · rw [hlength]
      exact hfound.count_eq
    · rw [hlength]
      exact hfound.toNat_length
  · rw [Repository.result_search h, map_eq_ok_iff] at hpage
    obtain ⟨found, hasked, rfl⟩ := hpage
    obtain ⟨m, hm, hfound⟩ := Repository.asked_eq_ok_iff.mp hasked
    have hlength := Store.length_arranged (criteria.order.sort r.config) found
    refine ⟨m, found, _, hm, hfound, Store.inOrder_arranged _ found, ?_, ?_, ?_, rfl⟩
    · rw [Repository.count_eq_asked, hasked]
      rfl
    · rw [hlength]
      rfl
    · rw [hlength]
      exact hfound.toNat_length

namespace Repository

def joAged30 : Document := [("_id", .int32 1), ("nick", .string "jo"), ("age", .int32 30)]

def annAged40 : Document := [("_id", .int32 2), ("nick", .string "ann"), ("age", .int32 40)]

def joanAged35 : Document := [("_id", .int32 3), ("nick", .string "joan"), ("age", .int32 35)]

def people : Repository :=
  ⟨.default, ["age"], ⟨"people", [joAged30, annAged40, joanAged35], []⟩⟩

def joByAge : Criteria :=
  { filters := [⟨⟨"nick", by decide⟩, .contains, ⟨"^jo", .string "^jo", .scalar (.string "^jo")⟩⟩]
    order := .by ⟨"age", by decide⟩ .descending
    limit := some 1
    page := some 2 }

theorem asked_joByAge : people.asked joByAge.filters = .ok [joAged30, joanAged35] := by
  cbv

/-- Joan is older, so the second page shows Jo. -/
theorem find_count_search_exact_people :
    (people.ensureIndexes [] fun _ _ => false).result = .ok true
      ∧ ∃ page, (people.search [] (fun _ _ => false) joByAge).result = .ok page
        ∧ page.items = [[("nick", .string "jo"), ("age", .int32 30)]]
        ∧ (people.count joByAge).result = .ok page.total ∧ page.total.toNat = 2 := by
  have hensured : (people.ensureIndexes [] fun _ _ => false).result = .ok true := rfl
  have hafter : (Document.compareBy [("age", .int32 (-1))] joAged30 joanAged35).isLE = false := by
    decide +kernel
  have harranged : Store.arranged (joByAge.order.sort people.config) [joAged30, joanAged35]
      = [joanAged35, joAged30] := by
    change Document.sorted [("age", .int32 (-1))] _ = _
    simp [Document.sorted, List.mergeSort, hafter]
  have hresult := result_search hensured joByAge
  rw [asked_joByAge] at hresult
  obtain ⟨-, hpage⟩ := find_count_search_exact.2 people [] _ joByAge true hensured
  obtain ⟨m, found, listed, -, -, -, hcount, -, -, -⟩ := hpage _ hresult
  refine ⟨hensured, _, hresult, ?_, hcount, rfl⟩
  simp only [pageOf, harranged]
  rfl

end Repository

end DocQuery
