import DocQuery.Proofs.Store.Indexes
import Mathlib

/-!
Histories of calls on repositories that share a registry. Each call asks a repository for its indexes
or for a page, and meanwhile its store may refuse any index. For each collection name one call at most
creates all indexes; before it the name is not in the registry and every call starts from the first
field, and after it no call changes anything. Calls for other names go on as if there were none for
this one.
-/
namespace DocQuery

namespace Repository

variable {r : Repository} {registry registry' : Registry} {refuses : Refusal}

theorem ensureIndexes_congr (h : r.store.name ∈ registry ↔ r.store.name ∈ registry')
    (refuses : Refusal) :
    (r.ensureIndexes registry refuses).repository = (r.ensureIndexes registry' refuses).repository
      ∧ (r.ensureIndexes registry refuses).log = (r.ensureIndexes registry' refuses).log
      ∧ (r.ensureIndexes registry refuses).result = (r.ensureIndexes registry' refuses).result := by
  by_cases hn : r.store.name ∈ registry
  · rw [ensureIndexes_of_mem hn, ensureIndexes_of_mem (h.mp hn)]
    exact ⟨rfl, rfl, rfl⟩
  · have hn' : r.store.name ∉ registry' := fun hmem => hn (h.mpr hmem)
    simp only [ensureIndexes, Registry.ensureOnce, List.contains_eq_mem, hn, hn', decide_false,
      Bool.false_eq_true, if_false]
    cases (r.store.createIndexes refuses 0 r.indexFields).result <;> simp

theorem search_congr (h : r.store.name ∈ registry ↔ r.store.name ∈ registry')
    (criteria : Criteria) :
    (r.search registry refuses criteria).result = (r.search registry' refuses criteria).result := by
  obtain ⟨hrepository, -, hresult⟩ := ensureIndexes_congr h refuses
  unfold search
  dsimp only
  rw [← hresult, ← hrepository]
  split
  · rfl
  · split <;> rfl

theorem search_eq_error_of_ensureIndexes {e : Error}
    (h : (r.ensureIndexes registry refuses).result = .error e) (criteria : Criteria) :
    (r.search registry refuses criteria).result = .error e := by
  simp [search, h]

end Repository

structure Shared (ι : Type) where
  registry : Registry
  repositories : ι → Repository

namespace Shared

inductive Asked where
  | indexes
  | page (criteria : Criteria)

structure Call (ι : Type) where
  member : ι
  asked : Asked
  refuses : Refusal

inductive Answer where
  | indexes (created : Except Error Bool)
  | page (page : Except Error Page)

def Asked.failure (asked : Asked) (e : Error) : Answer :=
  match asked with
  | indexes => .indexes (.error e)
  | page _ => .page (.error e)

section Call

variable {ι : Type} {s : Shared ι} {c : Call ι}

def name (s : Shared ι) (i : ι) : String := (s.repositories i).store.name

def ensured (s : Shared ι) (c : Call ι) : Repository.Ensured :=
  (s.repositories c.member).ensureIndexes s.registry c.refuses

def Completes (s : Shared ι) (c : Call ι) : Prop := (s.ensured c).result = .ok true

def answer (s : Shared ι) (c : Call ι) : Answer :=
  match c.asked with
  | .indexes => .indexes (s.ensured c).result
  | .page criteria =>
    .page ((s.repositories c.member).search s.registry c.refuses criteria).result

theorem answer_of_error {e : Error} (h : (s.ensured c).result = .error e) :
    s.answer c = c.asked.failure e := by
  unfold answer Asked.failure
  split
  · rw [h]
  · rw [Repository.search_eq_error_of_ensureIndexes h]

theorem ensured_of_mem (h : s.name c.member ∈ s.registry) :
    s.ensured c = ⟨s.repositories c.member, s.registry, [], .ok false⟩ :=
  Repository.ensureIndexes_of_mem h

theorem attempt_ensured (h : s.name c.member ∉ s.registry) :
    (s.repositories c.member).Attempt s.registry c.refuses (s.ensured c) :=
  Repository.attempt_ensureIndexes h c.refuses

theorem not_mem_of_completes (h : s.Completes c) : s.name c.member ∉ s.registry := by
  intro hmem
  rw [Completes, ensured_of_mem hmem] at h
  cases h

end Call

section Step

variable {ι : Type} [DecidableEq ι] {s : Shared ι} {c : Call ι} {n : String}

def put (s : Shared ι) (i : ι) (r : Repository) (registry : Registry) : Shared ι :=
  ⟨registry, Function.update s.repositories i r⟩

def after (s : Shared ι) (c : Call ι) : Shared ι :=
  match c.asked with
  | .indexes => s.put c.member (s.ensured c).repository (s.ensured c).registry
  | .page criteria =>
    let found := (s.repositories c.member).search s.registry c.refuses criteria
    s.put c.member found.repository found.registry

theorem after_eq (s : Shared ι) (c : Call ι) :
    s.after c = s.put c.member (s.ensured c).repository (s.ensured c).registry := by
  unfold after
  split
  · rfl
  next criteria _ =>
    obtain ⟨hrepository, hregistry⟩ :=
      Repository.search_state (s.repositories c.member) s.registry c.refuses criteria
    dsimp only
    rw [hrepository, hregistry]
    rfl

theorem registry_after (s : Shared ι) (c : Call ι) :
    (s.after c).registry = (s.ensured c).registry := by
  rw [after_eq]
  rfl

theorem repositories_after_self (s : Shared ι) (c : Call ι) :
    (s.after c).repositories c.member = (s.ensured c).repository := by
  rw [after_eq]
  exact Function.update_self ..

theorem repositories_after_of_ne {i : ι} (h : i ≠ c.member) :
    (s.after c).repositories i = s.repositories i := by
  rw [after_eq]
  exact Function.update_of_ne h ..

theorem after_of_mem (h : s.name c.member ∈ s.registry) : s.after c = s := by
  rw [after_eq, ensured_of_mem h, put, Function.update_eq_self]

theorem mem_registry_after_iff :
    n ∈ (s.after c).registry ↔ n ∈ s.registry ∨ s.name c.member = n ∧ s.Completes c := by
  rw [registry_after]
  by_cases h : s.name c.member ∈ s.registry
  · have hnot : ¬ s.Completes c := fun hc => not_mem_of_completes hc h
    rw [ensured_of_mem h]
    simp [hnot]
  · have ha := attempt_ensured h
    unfold Completes
    generalize s.ensured c = e at ha
    cases ha with
    | completes => simp [name, or_comm, eq_comm]
    | stops => simp

/-- The fields for which a call asks the store of a repository, up to one that is refused. -/
def asks (s : Shared ι) (i : ι) (c : Call ι) : List String :=
  if c.member = i ∧ s.name i ∉ s.registry then
    Store.granted c.refuses 0 (s.repositories i).indexFields
  else []

theorem repositories_after (s : Shared ι) (c : Call ι) (i : ι) :
    (s.after c).repositories i = (s.repositories i).indexed (s.asks i c) := by
  unfold asks
  by_cases hi : i = c.member
  · subst hi
    rw [repositories_after_self]
    by_cases h : s.name c.member ∈ s.registry
    · rw [ensured_of_mem h, if_neg (by simp [h]), Repository.indexed_nil]
    · rw [if_pos ⟨rfl, h⟩]
      have ha := attempt_ensured h
      generalize s.ensured c = e at ha
      cases ha with
      | completes hall =>
        have hgranted := Store.granted_append [] hall (by simp)
        rw [List.append_nil] at hgranted
        rw [hgranted]
      | @stops before rest f hfields hbefore hf =>
        have hgranted := Store.granted_append (f :: rest) hbefore (by simpa using hf)
        rw [hfields, hgranted]
  · rw [repositories_after_of_ne hi, if_neg fun h => hi h.1.symm, Repository.indexed_nil]

theorem name_after (s : Shared ι) (c : Call ι) (i : ι) : (s.after c).name i = s.name i := by
  unfold name
  rw [repositories_after]
  rfl

end Step

section Run

variable {ι : Type} [DecidableEq ι] {s : Shared ι} {c : Call ι} {calls : List (Call ι)} {n : String}

def run (s : Shared ι) (calls : List (Call ι)) : Shared ι := calls.foldl after s

theorem run_append (s : Shared ι) (calls more : List (Call ι)) :
    s.run (calls ++ more) = (s.run calls).run more :=
  List.foldl_append

theorem run_cons (s : Shared ι) (c : Call ι) (rest : List (Call ι)) :
    s.run (c :: rest) = (s.after c).run rest := rfl

def requested (s : Shared ι) (i : ι) : List (Call ι) → List String
  | [] => []
  | c :: rest => s.asks i c ++ (s.after c).requested i rest

/-- A history adds to the indexes what it asks for, and changes nothing else in a repository. -/
theorem repositories_run (s : Shared ι) (calls : List (Call ι)) (i : ι) :
    (s.run calls).repositories i = (s.repositories i).indexed (s.requested i calls) := by
  induction calls generalizing s with
  | nil =>
    rw [requested, Repository.indexed_nil]
    rfl
  | cons c rest ih =>
    rw [run_cons, ih, repositories_after, Repository.indexed_indexed, requested]

theorem name_run (s : Shared ι) (calls : List (Call ι)) (i : ι) :
    (s.run calls).name i = s.name i := by
  unfold name
  rw [repositories_run]
  rfl

theorem indexes_isPrefix_run (s : Shared ι) (calls : List (Call ι)) (i : ι) :
    (s.repositories i).store.indexes <+: ((s.run calls).repositories i).store.indexes := by
  rw [repositories_run]
  exact List.prefix_append _ _

def CompletedIn (s : Shared ι) (calls : List (Call ι)) (n : String) : Prop :=
  ∃ before c rest, calls = before ++ c :: rest ∧ s.name c.member = n ∧ (s.run before).Completes c

theorem not_completedIn_nil (s : Shared ι) (n : String) : ¬ s.CompletedIn [] n := by
  rintro ⟨before, c, rest, h, -⟩
  simp at h

theorem completedIn_cons_iff : s.CompletedIn (c :: calls) n
    ↔ s.name c.member = n ∧ s.Completes c ∨ (s.after c).CompletedIn calls n := by
  constructor
  · rintro ⟨before, c', rest, h, hname, hc⟩
    cases before with
    | nil =>
      cases h
      exact .inl ⟨hname, hc⟩
    | cons first before =>
      cases h
      exact .inr ⟨before, c', rest, rfl, by rw [name_after, hname], hc⟩
  · rintro (⟨hname, hc⟩ | ⟨before, c', rest, rfl, hname, hc⟩)
    · exact ⟨[], c, calls, rfl, hname, hc⟩
    · exact ⟨c :: before, c', rest, rfl, by rw [← hname, name_after], hc⟩

theorem mem_registry_run_iff :
    n ∈ (s.run calls).registry ↔ n ∈ s.registry ∨ s.CompletedIn calls n := by
  induction calls generalizing s with
  | nil => simp [run, not_completedIn_nil]
  | cons c rest ih => rw [run_cons, ih, mem_registry_after_iff, completedIn_cons_iff, or_assoc]

theorem not_mem_registry_run (h : n ∉ s.registry) (hothers : ∀ x ∈ calls, s.name x.member ≠ n) :
    n ∉ (s.run calls).registry := by
  rw [mem_registry_run_iff]
  rintro (hmem | ⟨before, c, rest, rfl, hname, -⟩)
  · exact h hmem
  · exact hothers c (by simp) hname

end Run

section Frame

variable {ι : Type} {s t : Shared ι} {c : Call ι} {n : String}

/-- Both are alike, but for what belongs to one collection name. -/
structure AlikeBut (n : String) (s t : Shared ι) : Prop where
  names : ∀ i, s.name i = t.name i
  registry : ∀ m ≠ n, (m ∈ s.registry ↔ m ∈ t.registry)
  repositories : ∀ i, s.name i ≠ n → s.repositories i = t.repositories i

namespace AlikeBut

theorem refl (n : String) (s : Shared ι) : AlikeBut n s s :=
  ⟨fun _ => rfl, fun _ _ => Iff.rfl, fun _ _ => rfl⟩

theorem ensured (h : AlikeBut n s t) (hc : s.name c.member ≠ n) :
    (s.ensured c).repository = (t.ensured c).repository ∧ (s.ensured c).log = (t.ensured c).log
      ∧ (s.ensured c).result = (t.ensured c).result := by
  unfold Shared.ensured
  rw [← h.repositories c.member hc]
  exact Repository.ensureIndexes_congr (h.registry _ hc) c.refuses

theorem answer (h : AlikeBut n s t) (hc : s.name c.member ≠ n) : s.answer c = t.answer c := by
  unfold Shared.answer
  split
  · rw [(h.ensured hc).2.2]
  · rw [← h.repositories c.member hc, Repository.search_congr (h.registry _ hc)]

variable [DecidableEq ι]

theorem after_left (h : AlikeBut n s t) (hc : s.name c.member = n) : AlikeBut n (s.after c) t where
  names i := by rw [name_after, h.names]
  registry m hm := by
    have hne : s.name c.member ≠ m := fun he => hm (he.symm.trans hc)
    rw [mem_registry_after_iff, h.registry m hm]
    simp [hne]
  repositories i hi := by
    rw [name_after] at hi
    have hne : i ≠ c.member := fun he => hi (he ▸ hc)
    rw [repositories_after_of_ne hne, h.repositories i hi]

theorem after (h : AlikeBut n s t) (hc : s.name c.member ≠ n) :
    AlikeBut n (s.after c) (t.after c) where
  names i := by rw [name_after, name_after, h.names]
  registry m hm := by
    rw [mem_registry_after_iff, mem_registry_after_iff, h.registry m hm, h.names, Completes,
      Completes, (h.ensured hc).2.2]
  repositories i hi := by
    by_cases he : i = c.member
    · subst he
      rw [repositories_after_self, repositories_after_self, (h.ensured hc).1]
    · rw [name_after] at hi
      rw [repositories_after_of_ne he, repositories_after_of_ne he, h.repositories i hi]

theorem run (h : AlikeBut n s t) (calls : List (Call ι)) :
    AlikeBut n (s.run calls) (t.run (calls.filter fun x => s.name x.member != n)) := by
  induction calls generalizing s t with
  | nil => exact h
  | cons c rest ih =>
    by_cases hc : s.name c.member = n
    · -- a call for the name, which only the longer history has
      have hrest := ih (h.after_left hc)
      simp only [name_after] at hrest
      rw [List.filter_cons_of_neg (by simp [hc])]
      exact hrest
    · have hrest := ih (h.after hc)
      simp only [name_after] at hrest
      rw [List.filter_cons_of_pos (by simp [hc])]
      exact hrest

end AlikeBut

end Frame

section Once

variable {ι : Type} [DecidableEq ι] {s : Shared ι} {c : Call ι}

theorem registry_after_of_error {e : Error} (h : (s.ensured c).result = .error e) :
    s.name c.member ∉ s.registry ∧ (s.after c).registry = s.registry := by
  have hnot : s.name c.member ∉ s.registry := by
    intro hmem
    rw [ensured_of_mem hmem] at h
    cases h
  refine ⟨hnot, ?_⟩
  -- an attempt that completes reports no error
  have ha := attempt_ensured hnot
  rw [registry_after]
  generalize s.ensured c = e' at ha h
  cases ha with
  | completes => cases h
  | stops => rfl

theorem mem_indexes_of_completes (h : s.Completes c) {f : String}
    (hf : f ∈ (s.repositories c.member).indexFields) :
    f ∈ ((s.after c).repositories c.member).store.indexes := by
  have ha := attempt_ensured (not_mem_of_completes h)
  rw [repositories_after_self]
  unfold Completes at h
  generalize s.ensured c = e at ha h
  cases ha with
  | completes => exact (Store.mem_indexes_indexed_iff _ _ f).mpr (.inr hf)
  | stops => cases h

/-- After an error and calls for other names the next call for the name is an attempt again. -/
theorem attempt_again_of_error {e : Error} (h : (s.ensured c).result = .error e)
    {between : List (Call ι)} (hothers : ∀ x ∈ between, s.name x.member ≠ s.name c.member)
    {d : Call ι} (hd : s.name d.member = s.name c.member) :
    ((s.run (c :: between)).repositories d.member).Attempt (s.run (c :: between)).registry d.refuses
      ((s.run (c :: between)).ensured d) := by
  obtain ⟨hnot, hregistry⟩ := registry_after_of_error h
  refine attempt_ensured ?_
  rw [← hregistry] at hnot
  rw [name_run, hd, run_cons]
  refine not_mem_registry_run hnot fun x hx => ?_
  rw [name_after]
  exact hothers x hx

/-- A call `c` after a history leaves behind what its indexes came to. A name is in the registry since
a call completed it, no second call does so, and a call for a name in the registry changes nothing.
Any other call is an attempt from the first field; if it ends with an error, so does the answer, the
registry is as before, and the next call for the name is such an attempt again. Histories add to the
indexes of a store what is requested, in order and once each, and change nothing else in the
repositories; and they are the same, for all names but one, without the calls for this one. -/
theorem indexes_once_per_name (s : Shared ι) (before : List (Call ι)) (c : Call ι) :
    ((s.run (before ++ [c]) = (s.run before).put c.member ((s.run before).ensured c).repository
        ((s.run before).ensured c).registry)
      ∧ (∀ n, n ∈ (s.run before).registry ↔ n ∈ s.registry ∨ s.CompletedIn before n)
      ∧ (s.CompletedIn before (s.name c.member) → ¬ (s.run before).Completes c)
      ∧ (s.name c.member ∈ (s.run before).registry → s.run (before ++ [c]) = s.run before
        ∧ (s.run before).ensured c
          = ⟨(s.run before).repositories c.member, (s.run before).registry, [], .ok false⟩)
      ∧ (c.asked = .indexes
        → (s.run before).answer c = .indexes ((s.run before).ensured c).result))
    ∧ ((s.name c.member ∉ (s.run before).registry →
        ((s.run before).repositories c.member).Attempt (s.run before).registry c.refuses
          ((s.run before).ensured c))
      ∧ ∀ e, ((s.run before).ensured c).result = .error e →
        (s.run before).answer c = c.asked.failure e
        ∧ s.name c.member ∉ (s.run (before ++ [c])).registry
        ∧ (s.run (before ++ [c])).registry = (s.run before).registry
        ∧ ∀ between d, (∀ x ∈ between, s.name x.member ≠ s.name c.member) →
          s.name d.member = s.name c.member →
          ((s.run (before ++ c :: between)).repositories d.member).Attempt
            (s.run (before ++ c :: between)).registry d.refuses
            ((s.run (before ++ c :: between)).ensured d))
    ∧ ((∀ i, (s.run before).repositories i = (s.repositories i).indexed (s.requested i before))
      ∧ (∀ i, (s.repositories i).store.indexes.Nodup →
        ((s.run before).repositories i).store.indexes.Nodup)
      ∧ (∀ i rest, ((s.run before).repositories i).store.indexes
        <+: ((s.run (before ++ rest)).repositories i).store.indexes)
      ∧ ((s.run before).Completes c → ∀ rest, ∀ f ∈ (s.repositories c.member).indexFields,
        f ∈ ((s.run (before ++ c :: rest)).repositories c.member).store.indexes))
    ∧ (∀ i, ((s.run before).repositories i).store.documents = (s.repositories i).store.documents)
    ∧ ∀ n, AlikeBut n (s.run before) (s.run (before.filter fun x => s.name x.member != n))
      ∧ (s.name c.member ≠ n → (s.run before).answer c
        = (s.run (before.filter fun x => s.name x.member != n)).answer c) := by
  have hname := name_run s before
  have hlast : s.run (before ++ [c]) = (s.run before).after c := run_append s before [c]
  rw [hlast]
  refine ⟨⟨after_eq _ c, fun n => mem_registry_run_iff, fun hdone hc => ?_, fun hmem => ?_,
      fun hasked => ?_⟩,
    ⟨fun hnot => ?_, fun e he => ⟨answer_of_error he, ?_, (registry_after_of_error he).2,
      fun between d hothers hd => ?_⟩⟩,
    ⟨repositories_run s before, fun i hn => ?_, fun i rest => ?_, fun hc rest f hf => ?_⟩,
    fun i => ?_, fun n => ?_⟩
  · have hmem := mem_registry_run_iff.mpr (.inr hdone)
    rw [← hname] at hmem
    exact not_mem_of_completes hc hmem
  · rw [← hname] at hmem
    exact ⟨after_of_mem hmem, ensured_of_mem hmem⟩
  · unfold answer
    rw [hasked]
  · rw [← hname] at hnot
    exact attempt_ensured hnot
  · obtain ⟨hnot, hregistry⟩ := registry_after_of_error he
    rw [hregistry, ← hname]
    exact hnot
  · rw [run_append]
    simp only [← hname] at hothers hd
    exact attempt_again_of_error he hothers hd
  · rw [repositories_run]
    exact Store.nodup_indexes_indexed hn _
  · rw [run_append]
    exact indexes_isPrefix_run _ _ _
  · rw [run_append, run_cons]
    refine (indexes_isPrefix_run _ _ _).subset (mem_indexes_of_completes hc ?_)
    rw [repositories_run]
    exact hf
  · rw [repositories_run]
    rfl
  · have halike := (AlikeBut.refl n s).run before
    refine ⟨halike, fun hne => halike.answer ?_⟩
    rwa [hname]

def twoPeople : Shared Bool :=
  ⟨[], fun b => ⟨.default, if b then ["age", "nick"] else ["age"], .empty "people"⟩⟩

def nickRefused : Call Bool := ⟨true, .indexes, fun _ field => field == "nick"⟩

def allPeople (b : Bool) : Call Bool := ⟨b, .page .all, fun _ _ => false⟩

/-- The second index is refused at first. A search then creates it, and after that nothing is created
in the other store. -/
theorem indexes_once_per_name_people :
    twoPeople.answer nickRefused = .indexes (.error (.internal (.indexRefused "nick")))
      ∧ ((twoPeople.run [nickRefused]).repositories true).store.indexes = ["age"]
      ∧ (twoPeople.run [nickRefused]).Completes (allPeople true)
      ∧ (∀ f ∈ ["age", "nick"],
        f ∈ ((twoPeople.run [nickRefused, allPeople true]).repositories true).store.indexes)
      ∧ ¬ (twoPeople.run [nickRefused, allPeople true]).Completes (allPeople false)
      ∧ twoPeople.run [nickRefused, allPeople true, allPeople false]
        = twoPeople.run [nickRefused, allPeople true] := by
  have hrefused : (twoPeople.ensured nickRefused).result
      = .error (.internal (.indexRefused "nick")) := rfl
  have hcompletes : (twoPeople.run [nickRefused]).Completes (allPeople true) := rfl
  have hdone : twoPeople.CompletedIn [nickRefused, allPeople true] "people" :=
    ⟨[nickRefused], allPeople true, [], rfl, rfl, hcompletes⟩
  obtain ⟨-, ⟨-, hfailed⟩, -⟩ := indexes_once_per_name twoPeople [] nickRefused
  obtain ⟨-, -, ⟨hindexes, -, -, hall⟩, -⟩ :=
    indexes_once_per_name twoPeople [nickRefused] (allPeople true)
  obtain ⟨⟨-, hregistry, honce, hsame, -⟩, -⟩ :=
    indexes_once_per_name twoPeople [nickRefused, allPeople true] (allPeople false)
  refine ⟨(hfailed _ hrefused).1, ?_, hcompletes, hall hcompletes [], honce hdone,
    (hsame ((hregistry _).mpr (.inr hdone))).1⟩
  rw [hindexes]
  rfl

end Once

end Shared

end DocQuery
