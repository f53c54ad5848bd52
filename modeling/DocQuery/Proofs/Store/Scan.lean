import DocQuery.Proofs.Order.Documents
import DocQuery.Proofs.Outcome
import DocQuery.Store.Memory

/-!
The scans of a store. Finding and counting go through the documents in the order of insertion and
end at the first that gives no answer, so they fail together; otherwise what is found is cut out of
the matching documents in order, and what is counted is how many these are.
-/
namespace DocQuery.Store

variable {test : Document → Except Error Bool} {ds found : List Document} {e : Error}

def passes (test : Document → Except Error Bool) (d : Document) : Bool :=
  match test d with
  | .ok b => b
  | .error _ => false

theorem select_eq_ok_iff : select test ds = .ok found
    ↔ (∀ d ∈ ds, ∃ b, test d = .ok b) ∧ found = ds.filter (passes test) := by
  induction ds generalizing found with
  | nil => simp [select, eq_comm]
  | cons d rest ih =>
    simp only [select, bind_eq_ok_iff, ih, List.forall_mem_cons]
    cases hd : test d with
    | error e => simp
    | ok b =>
      have hp : passes test d = b := by simp [passes, hd]
      cases b with
      | true =>
        rw [List.filter_cons_of_pos hp]
        simp [pure, Except.pure, eq_comm]
      | false =>
        rw [List.filter_cons_of_neg (by simp [hp])]
        simp [pure, Except.pure, eq_comm]

/-- The error is that of the first document without an answer. -/
theorem select_eq_error_iff : select test ds = .error e
    ↔ Meets (fun d => test d = .error e) (fun d => ∃ b, test d = .ok b) ds := by
  induction ds with
  | nil => simp [select, not_meets_nil]
  | cons d rest ih =>
    rw [meets_cons_iff, ← ih]
    cases hd : test d with
    | error e' => simp [select, hd, bind, Except.bind]
    | ok b =>
      cases hs : select test rest <;> simp [select, hd, hs, bind, Except.bind, pure, Except.pure]

theorem tally_eq_select (test : Document → Except Error Bool) (n : UInt64) (ds : List Document) :
    tally test n ds = (select test ds).map fun found => n + UInt64.ofNat found.length := by
  induction ds generalizing n with
  | nil => simp [tally, select, Except.map]
  | cons d rest ih =>
    unfold tally select
    cases hd : test d with
    | error e => rfl
    | ok b =>
      have hrest := ih (if b then n + 1 else n)
      cases hs : select test rest with
      | error e => simpa [bind, Except.bind, Except.map, hs] using hrest
      | ok found =>
        rw [hs] at hrest
        cases b with
        | true =>
          have hn : n + 1 + UInt64.ofNat found.length
              = n + UInt64.ofNat (found.length + 1) := by
            rw [UInt64.ofNat_add, UInt64.add_assoc, UInt64.add_comm 1]
            rfl
          simpa [bind, Except.bind, Except.map, pure, Except.pure, hn] using hrest
        | false => simpa [bind, Except.bind, Except.map, pure, Except.pure] using hrest

variable {s : Store} {predicate : Document}

/-- The predicate is not accepted, or the scan, past documents with an answer, meets one without. -/
def Fails (s : Store) (predicate : Document) (e : Error) : Prop :=
  Matcher.ofPredicate predicate = .error e
    ∨ ∃ m, Matcher.ofPredicate predicate = .ok m
      ∧ Meets (fun d => m.holds d = .error e) (fun d => ∃ b, m.holds d = .ok b) s.documents

/-- The predicate is accepted and gives an answer for every document, a yes for these. -/
def Finds (s : Store) (predicate : Document) (found : List Document) : Prop :=
  ∃ m, Matcher.ofPredicate predicate = .ok m ∧ (∀ d ∈ s.documents, ∃ b, m.holds d = .ok b)
    ∧ found = s.documents.filter (passes m.holds)

theorem matching_eq_ok_iff : s.matching predicate = .ok found ↔ s.Finds predicate found := by
  simp only [matching, bind_eq_ok_iff, select_eq_ok_iff, Finds]

theorem matching_eq_error_iff : s.matching predicate = .error e ↔ s.Fails predicate e := by
  unfold matching Fails
  cases hm : Matcher.ofPredicate predicate with
  | error e' => simp [bind, Except.bind]
  | ok m =>
    simp only [bind, Except.bind, Except.ok.injEq, reduceCtorEq, false_or, exists_eq_left']
    exact select_eq_error_iff

def arranged (sort : Document) (found : List Document) : List Document :=
  if sort.isEmpty then found else Document.sorted sort found

/-- All that was found stands in the order of the sort document, and documents that tie stand as they
were found. -/
structure InOrder (sort : Document) (found listed : List Document) : Prop where
  perm : listed.Perm found
  ordered : listed.Pairwise fun a b => (Document.compareBy sort a b).isLE
  stable : ∀ d, listed.filter (Document.ties sort d) = found.filter (Document.ties sort d)

theorem inOrder_arranged (sort : Document) (found : List Document) :
    InOrder sort found (arranged sort found) := by
  have hsorted : arranged sort found = Document.sorted sort found := by
    cases sort with
    | nil => exact (Document.sorted_nil found).symm
    | cons e rest => rfl
  rw [hsorted]
  exact ⟨Document.sorted_perm sort found, Document.pairwise_sorted sort found,
    fun d => Document.filter_ties_sorted sort d found⟩

theorem length_arranged (sort : Document) (found : List Document) :
    (arranged sort found).length = found.length :=
  (inOrder_arranged sort found).perm.length_eq

/-- What is left of a list after a skip, up to a limit. The limit zero is none. -/
def cut (skip limit : UInt64) (listed : List Document) : List Document :=
  if limit = 0 then listed.drop skip.toNat else (listed.drop skip.toNat).take limit.toNat

theorem find_eq_matching (s : Store) (q : Query) : s.find q
    = (s.matching q.predicate).map fun found => cut q.skip q.limit (arranged q.sort found) := by
  unfold find
  cases s.matching q.predicate <;> rfl

theorem count_eq_matching (s : Store) (predicate : Document) :
    s.count predicate = (s.matching predicate).map fun found => UInt64.ofNat found.length := by
  unfold count matching
  cases Matcher.ofPredicate predicate with
  | error e => rfl
  | ok m =>
    have htally := tally_eq_select m.holds 0 s.documents
    simpa [bind, Except.bind] using htally

theorem find_eq_error_iff {q : Query} : s.find q = .error e ↔ s.Fails q.predicate e := by
  rw [find_eq_matching, map_eq_error_iff, matching_eq_error_iff]

theorem count_eq_error_iff : s.count predicate = .error e ↔ s.Fails predicate e := by
  rw [count_eq_matching, map_eq_error_iff, matching_eq_error_iff]

theorem Finds.find_eq {q : Query} (h : s.Finds q.predicate found) :
    s.find q = .ok (cut q.skip q.limit (arranged q.sort found)) := by
  rw [find_eq_matching, matching_eq_ok_iff.mpr h]
  rfl

theorem Finds.count_eq (h : s.Finds predicate found) :
    s.count predicate = .ok (UInt64.ofNat found.length) := by
  rw [count_eq_matching, matching_eq_ok_iff.mpr h]
  rfl

theorem exists_find_eq_ok_iff {q : Query} :
    (∃ items, s.find q = .ok items) ↔ ∃ found, s.Finds q.predicate found := by
  constructor
  · rintro ⟨items, h⟩
    rw [find_eq_matching, map_eq_ok_iff] at h
    obtain ⟨found, hfound, -⟩ := h
    exact ⟨found, matching_eq_ok_iff.mp hfound⟩
  · rintro ⟨found, h⟩
    exact ⟨_, h.find_eq⟩

theorem Finds.length_le (h : s.Finds predicate found) : found.length ≤ s.documents.length := by
  obtain ⟨m, -, -, rfl⟩ := h
  exact List.length_filter_le _ _

/-- What is found is counted exactly, in a store whose size is a word. -/
theorem Finds.toNat_length (h : s.Finds predicate found)
    (hsize : s.documents.length < UInt64.size) :
    (UInt64.ofNat found.length).toNat = found.length :=
  UInt64.toNat_ofNat_of_lt' (Nat.lt_of_le_of_lt h.length_le hsize)

end DocQuery.Store
