import DocQuery.Proofs.Store.Scan
import Mathlib

/-!
Where the order of insertion can be seen. Stores that hold the same documents find and count the same
ones, and what they list differs only among documents that the sort does not tell apart.
-/
namespace DocQuery

namespace Document

variable {sort a b : Document} {rest l l' : List Document}

theorem ties_self (sort d : Document) : ties sort d d = true := by
  have hself : compareBy sort d d = .eq := Std.ReflCmp.compare_self
  simp [ties, hself]

theorem ties_congr (h : compareBy sort a b = .eq) (d : Document) :
    ties sort d a = ties sort d b := by
  rw [ties, ties, Std.TransCmp.congr_right h]

theorem isLE_head (hl : (a :: rest).Pairwise fun a b => (compareBy sort a b).isLE)
    (hb : 0 < (a :: rest).countP (ties sort b)) : (compareBy sort a b).isLE := by
  obtain ⟨c, hc, htie⟩ := List.countP_pos_iff.mp hb
  have hbc : compareBy sort b c = .eq := by simpa [ties] using htie
  rw [Std.TransCmp.congr_right hbc]
  rcases List.mem_cons.mp hc with hca | hrest
  · subst hca
    exact Std.ReflCmp.isLE_rfl
  · exact (List.pairwise_cons.mp hl).1 c hrest

/-- Lists in order with equally many documents of each tie agree position by position. -/
theorem forall₂_ties (hl : l.Pairwise fun a b => (compareBy sort a b).isLE)
    (hl' : l'.Pairwise fun a b => (compareBy sort a b).isLE)
    (hcount : ∀ d, l.countP (ties sort d) = l'.countP (ties sort d)) :
    List.Forall₂ (fun a b => compareBy sort a b = .eq) l l' := by
  induction l generalizing l' with
  | nil =>
    cases l' with
    | nil => exact .nil
    | cons b rest' => simpa [ties_self] using hcount b
  | cons a rest ih =>
    cases l' with
    | nil => simpa [ties_self] using hcount a
    | cons b rest' =>
      have hab : (compareBy sort a b).isLE := by
        refine isLE_head hl ?_
        rw [hcount b]
        simp [ties_self]
      have hba : (compareBy sort b a).isLE := by
        refine isLE_head hl' ?_
        rw [← hcount a]
        simp [ties_self]
      have htie : compareBy sort a b = .eq := Std.OrientedCmp.isLE_antisymm hab hba
      -- The rests need not hold the same documents, but they have equally many of each tie.
      refine .cons htie (ih (List.pairwise_cons.mp hl).2 (List.pairwise_cons.mp hl').2 fun d => ?_)
      have hd := hcount d
      rw [List.countP_cons, List.countP_cons, ties_congr htie d] at hd
      exact Nat.add_right_cancel hd

theorem eq_of_perm_of_untied (hl : l.Pairwise fun a b => (compareBy sort a b).isLE)
    (hl' : l'.Pairwise fun a b => (compareBy sort a b).isLE) (hperm : l.Perm l')
    (huntied : l.Pairwise fun a b => compareBy sort a b ≠ .eq) : l = l' := by
  have hsymm : Std.Symm fun a b => compareBy sort a b ≠ .eq :=
    ⟨fun a b hab hba => hab (Std.OrientedCmp.eq_comm.mp hba)⟩
  refine List.Perm.eq_of_pairwise (fun a b ha hb hab hba => ?_) hl hl' hperm
  by_contra hne
  exact huntied.forall ha (hperm.mem_iff.mpr hb) hne (Std.OrientedCmp.isLE_antisymm hab hba)

end Document

namespace Store

variable {s t : Store} {predicate : Document} {found found' : List Document} {n : UInt64} {q : Query}

/-- A document as the store holds it: without an identifier it is given one. -/
inductive HeldAs (d : Document) : Document → Prop where
  | own (h : (d.get? idKey).isSome = true) : HeldAs d d
  | given (h : d.get? idKey = none) (id : ObjectId) :
    HeldAs d (Document.insert d idKey (.objectId id))

theorem insert_held (s : Store) (ids : IdSource) (d : Document) :
    ∃ d', HeldAs d d' ∧ (s.insert ids d).1 = { s with documents := s.documents ++ [d'] } := by
  unfold insert
  cases h : d.get? idKey with
  | some id => exact ⟨d, .own (by simp [h]), rfl⟩
  | none => exact ⟨_, .given h _, rfl⟩

theorem insertAll_held (s : Store) (ids : IdSource) (ds : List Document) :
    ∃ held, List.Forall₂ HeldAs ds held
      ∧ (s.insertAll ids ds).1 = { s with documents := s.documents ++ held } := by
  induction ds generalizing s ids with
  | nil => exact ⟨[], .nil, by simp [insertAll]⟩
  | cons d rest ih =>
    obtain ⟨d', hd, hinsert⟩ := s.insert_held ids d
    obtain ⟨held, hheld, hrest⟩ := ih (s.insert ids d).1 (s.insert ids d).2.1
    refine ⟨d' :: held, .cons hd hheld, ?_⟩
    rw [hinsert] at hrest
    change ((s.insert ids d).1.insertAll (s.insert ids d).2.1 rest).1 = _
    rw [hinsert, hrest, List.append_assoc]
    rfl

theorem HeldAs.eq_of_isSome {d d' : Document} (h : HeldAs d d') (hid : (d.get? idKey).isSome = true) :
    d' = d := by
  cases h with
  | own => rfl
  | given hnone => simp [hnone] at hid

theorem documents_insertAll {ds : List Document} (h : ∀ d ∈ ds, (d.get? idKey).isSome = true)
    (s : Store) (ids : IdSource) : (s.insertAll ids ds).1.documents = s.documents ++ ds := by
  obtain ⟨held, hheld, hstore⟩ := s.insertAll_held ids ds
  have hsame : held = ds := by
    clear hstore
    induction hheld with
    | nil => rfl
    | cons hd _ ih =>
      rw [List.forall_mem_cons] at h
      rw [hd.eq_of_isSome h.1, ih h.2]
  rw [hstore, hsame]

/-- Documents with identifiers can be inserted in any order to make stores that hold the same. -/
theorem perm_insertAll {ds ds' : List Document} (hperm : ds.Perm ds')
    (h : ∀ d ∈ ds, (d.get? idKey).isSome = true) (s : Store) (ids ids' : IdSource) :
    (s.insertAll ids ds).1.documents.Perm (s.insertAll ids' ds').1.documents := by
  have h' : ∀ d ∈ ds', (d.get? idKey).isSome = true := fun d hd => h d (hperm.mem_iff.mpr hd)
  rw [documents_insertAll h, documents_insertAll h']
  exact hperm.append_left s.documents

/-- The answer of a predicate for a document does not depend on where the document stands. -/
theorem Finds.of_perm (h : s.Finds predicate found) (hperm : s.documents.Perm t.documents) :
    ∃ found', t.Finds predicate found' ∧ found.Perm found' := by
  obtain ⟨m, hm, hall, rfl⟩ := h
  exact ⟨_, ⟨m, hm, fun d hd => hall d (hperm.mem_iff.mpr hd), rfl⟩, hperm.filter _⟩

theorem count_eq_ok_of_perm (hperm : s.documents.Perm t.documents)
    (h : s.count predicate = .ok n) : t.count predicate = .ok n := by
  rw [count_eq_matching, map_eq_ok_iff] at h
  obtain ⟨found, hfound, rfl⟩ := h
  obtain ⟨found', hfound', hsame⟩ := (matching_eq_ok_iff.mp hfound).of_perm hperm
  rw [hfound'.count_eq, hsame.length_eq]

/-- Skip and limit do not change what is found. -/
theorem Finds.find_window (h : s.Finds q.predicate found) (skip limit : UInt64) :
    s.find { q with skip := skip, limit := limit }
      = .ok (cut skip limit (arranged q.sort found)) := by
  have hfinds : s.Finds { q with skip := skip, limit := limit }.predicate found := h
  exact hfinds.find_eq

theorem exists_find_of_perm (hperm : s.documents.Perm t.documents)
    (h : ∃ items, s.find q = .ok items) : ∃ items, t.find q = .ok items := by
  obtain ⟨found, hfound⟩ := exists_find_eq_ok_iff.mp h
  obtain ⟨found', hfound', -⟩ := hfound.of_perm hperm
  exact ⟨_, hfound'.find_eq⟩

theorem perm_arranged (sort : Document) (hperm : found.Perm found') :
    (arranged sort found).Perm (arranged sort found') := by
  have hlisted := (inOrder_arranged sort found).perm
  have hlisted' := (inOrder_arranged sort found').perm
  exact hlisted.trans (hperm.trans hlisted'.symm)

theorem arranged_eq_of_untied {sort : Document} (hperm : found.Perm found')
    (huntied : found.Pairwise fun a b => Document.compareBy sort a b ≠ .eq) :
    arranged sort found = arranged sort found' := by
  have hlisted := inOrder_arranged sort found
  have hlisted' := inOrder_arranged sort found'
  have hsymm : ∀ {a b : Document}, Document.compareBy sort a b ≠ .eq →
      Document.compareBy sort b a ≠ .eq := fun h h' => h (Std.OrientedCmp.eq_comm.mp h')
  exact Document.eq_of_perm_of_untied hlisted.ordered hlisted'.ordered (perm_arranged sort hperm)
    (hlisted.perm.symm.pairwise huntied hsymm)

theorem forall₂_arranged (sort : Document) (hperm : found.Perm found') :
    List.Forall₂ (fun a b => Document.compareBy sort a b = .eq) (arranged sort found)
      (arranged sort found') := by
  have hlisted := inOrder_arranged sort found
  have hlisted' := inOrder_arranged sort found'
  exact Document.forall₂_ties hlisted.ordered hlisted'.ordered fun d =>
    (perm_arranged sort hperm).countP_eq _

/-- Two stores that hold the same documents, in any order of insertion, count the same or both fail,
and so with finding. Where the sort tells all documents that are found apart, both list the same for
every skip and limit. Otherwise both list the same documents, and in each position two that tie. -/
theorem insertion_order_shows_in_ties_only (s t : Store) (q : Query)
    (hperm : s.documents.Perm t.documents) :
    (∀ n, s.count q.predicate = .ok n ↔ t.count q.predicate = .ok n)
    ∧ ((∃ e, s.count q.predicate = .error e) ↔ ∃ e, t.count q.predicate = .error e)
    ∧ ((∃ e, s.find q = .error e) ↔ ∃ e, t.find q = .error e)
    ∧ ∀ found, s.Finds q.predicate found →
      ((found.Pairwise fun a b => Document.compareBy q.sort a b ≠ .eq) → ∀ skip limit, ∃ items,
        s.find { q with skip := skip, limit := limit } = .ok items
          ∧ t.find { q with skip := skip, limit := limit } = .ok items)
      ∧ ∃ listed listed', s.find { q with skip := 0, limit := 0 } = .ok listed
        ∧ t.find { q with skip := 0, limit := 0 } = .ok listed' ∧ listed.Perm listed'
        ∧ List.Forall₂ (fun a b => Document.compareBy q.sort a b = .eq) listed listed' := by
  have hcount : ∀ n, s.count q.predicate = .ok n ↔ t.count q.predicate = .ok n :=
    fun n => ⟨count_eq_ok_of_perm hperm, count_eq_ok_of_perm hperm.symm⟩
  have hfind : (∃ items, s.find q = .ok items) ↔ ∃ items, t.find q = .ok items :=
    ⟨exists_find_of_perm hperm, exists_find_of_perm hperm.symm⟩
  refine ⟨hcount, ?_, ?_, fun found hfound => ?_⟩
  · simp only [exists_error_iff, ne_eq, hcount]
  · simp only [exists_error_iff, ne_eq, ← not_exists, hfind]
  · obtain ⟨found', hfound', hsame⟩ := hfound.of_perm hperm
    refine ⟨fun huntied skip limit => ?_, ?_⟩
    · refine ⟨_, hfound.find_window skip limit, ?_⟩
      rw [hfound'.find_window, arranged_eq_of_untied hsame huntied]
    · exact ⟨_, _, hfound.find_window 0 0, hfound'.find_window 0 0, perm_arranged q.sort hsame,
        forall₂_arranged q.sort hsame⟩

def books : List Document :=
  [[("_id", .int32 1), ("author", .string "Sand")], [("_id", .int32 2), ("author", .string "Austen")],
    [("_id", .int32 3), ("author", .string "Sand")]]

def shelved (ds : List Document) : Store := ((Store.empty "books").insertAll .initial ds).1

def byAuthor : Document := [("author", .int32 1)]

def byAuthorThenId : Document := [("author", .int32 1), ("_id", .int32 1)]

/-- Where the identifier decides at last, the books are listed alike; by author alone, the two by one
author can change places. -/
theorem insertion_order_shows_in_ties_only_books :
    (shelved books).documents.Perm (shelved books.reverse).documents
    ∧ (∀ skip limit, ∃ items, (shelved books).find ⟨[], byAuthorThenId, skip, limit⟩ = .ok items
      ∧ (shelved books.reverse).find ⟨[], byAuthorThenId, skip, limit⟩ = .ok items)
    ∧ ∃ listed listed', (shelved books).find ⟨[], byAuthor, 0, 0⟩ = .ok listed
      ∧ (shelved books.reverse).find ⟨[], byAuthor, 0, 0⟩ = .ok listed'
      ∧ List.Forall₂ (fun a b => Document.compareBy byAuthor a b = .eq) listed listed' := by
  have hperm : (shelved books).documents.Perm (shelved books.reverse).documents :=
    perm_insertAll (List.reverse_perm books).symm (by decide) _ _ _
  have hfound : (shelved books).Finds [] books := by
    refine ⟨⟨[], []⟩, rfl, fun d hd => ⟨true, rfl⟩, rfl⟩
  have huntied : books.Pairwise fun a b => Document.compareBy byAuthorThenId a b ≠ .eq := by
    decide +kernel
  obtain ⟨-, -, -, hsame⟩ := insertion_order_shows_in_ties_only (shelved books)
    (shelved books.reverse) ⟨[], byAuthorThenId, 0, 0⟩ hperm
  obtain ⟨-, -, -, htied⟩ := insertion_order_shows_in_ties_only (shelved books)
    (shelved books.reverse) ⟨[], byAuthor, 0, 0⟩ hperm
  obtain ⟨-, listed, listed', hlisted, hlisted', -, hties⟩ := htied books hfound
  exact ⟨hperm, (hsame books hfound).1 huntied, listed, listed', hlisted, hlisted', hties⟩

end Store

end DocQuery
