import DocQuery.Proofs.FirstOccurrences
import DocQuery.Store.Repository

/-!
Creating indexes. A list of fields is gone through from its start up to the first that is refused, and
those before it are added to the indexes unless they are there. Nothing changes but the indexes and
the registry, and once all are there they stay.
-/
namespace DocQuery

namespace Store

variable {s : Store} {refuses : Refusal} {place : Nat} {fields : List String} {field : String}

/-- The store with indexes on these fields too. New ones come last, in the order of the fields. -/
def indexed (s : Store) (fields : List String) : Store :=
  { s with indexes := s.indexes ++ (fields.removeAll s.indexes).eraseDups }

theorem indexed_nil (s : Store) : s.indexed [] = s := by
  simp [indexed, List.removeAll]

theorem createIndex_eq_indexed (s : Store) (field : String) :
    s.createIndex field = s.indexed [field] := by
  unfold createIndex indexed
  by_cases h : field ∈ s.indexes <;> simp [h, List.removeAll, List.eraseDups_cons]

theorem mem_indexes_indexed_iff (s : Store) (fields : List String) (field : String) :
    field ∈ (s.indexed fields).indexes ↔ field ∈ s.indexes ∨ field ∈ fields := by
  simp only [indexed, List.mem_append, List.mem_eraseDups, List.removeAll, List.mem_filter]
  by_cases h : field ∈ s.indexes <;> simp [h]

theorem indexed_indexed (s : Store) (fields more : List String) :
    (s.indexed fields).indexed more = s.indexed (fields ++ more) := by
  have hmore : more.removeAll (s.indexed fields).indexes
      = (more.removeAll s.indexes).removeAll (fields.removeAll s.indexes) := by
    simp only [List.removeAll, List.filter_filter]
    refine List.filter_congr fun f _ => ?_
    have hmem := mem_indexes_indexed_iff s fields f
    by_cases hs : f ∈ s.indexes <;> simp_all
  have hall : (fields ++ more).removeAll s.indexes
      = fields.removeAll s.indexes ++ more.removeAll s.indexes := List.filter_append _ _
  rw [indexed, hmore]
  simp only [indexed, hall, List.eraseDups_append, List.append_assoc]

theorem nodup_indexes_indexed (h : s.indexes.Nodup) (fields : List String) :
    (s.indexed fields).indexes.Nodup := by
  refine h.append (nodup_eraseDups _) fun f hs hf => ?_
  rw [List.mem_eraseDups, List.removeAll, List.mem_filter] at hf
  simp [hs] at hf

def Grants (refuses : Refusal) (place : Nat) (fields : List String) : Prop :=
  ∀ k f, fields[k]? = some f → refuses (place + k) f = false

theorem grants_nil (refuses : Refusal) (place : Nat) : Grants refuses place [] := by
  intro k f h
  simp at h

theorem grants_cons_iff : Grants refuses place (field :: fields)
    ↔ refuses place field = false ∧ Grants refuses (place + 1) fields := by
  constructor
  · intro h
    refine ⟨h 0 field rfl, fun k f hk => ?_⟩
    rw [Nat.add_right_comm, Nat.add_assoc]
    exact h (k + 1) f hk
  · rintro ⟨hfirst, hrest⟩ k f hk
    cases k with
    | zero =>
      cases hk
      exact hfirst
    | succ k =>
      rw [← Nat.add_assoc, Nat.add_right_comm]
      exact hrest k f hk

theorem grants_or_refused (refuses : Refusal) (place : Nat) (fields : List String) :
    Grants refuses place fields ∨ ∃ before f after, fields = before ++ f :: after
      ∧ Grants refuses place before ∧ refuses (place + before.length) f = true := by
  induction fields generalizing place with
  | nil => exact .inl (grants_nil refuses place)
  | cons field rest ih =>
    cases hfirst : refuses place field with
    | true => exact .inr ⟨[], field, rest, rfl, grants_nil refuses place, hfirst⟩
    | false =>
      rcases ih (place + 1) with hrest | ⟨before, f, after, rfl, hbefore, hrefused⟩
      · exact .inl (grants_cons_iff.mpr ⟨hfirst, hrest⟩)
      · refine .inr ⟨field :: before, f, after, rfl, grants_cons_iff.mpr ⟨hfirst, hbefore⟩, ?_⟩
        rwa [List.length_cons, ← Nat.add_assoc, Nat.add_right_comm]

/-- Fields that are granted are indexed, and then the others are gone through. -/
theorem createIndexes_append (s : Store) (h : Grants refuses place fields) (more : List String) :
    s.createIndexes refuses place (fields ++ more)
      = let run := (s.indexed fields).createIndexes refuses (place + fields.length) more
        { run with log := fields.map s.created ++ run.log } := by
  induction fields generalizing s place with
  | nil => simp [indexed_nil]
  | cons field rest ih =>
    obtain ⟨hfirst, hrest⟩ := grants_cons_iff.mp h
    have hplace : place + 1 + rest.length = place + (field :: rest).length := by
      rw [List.length_cons]
      omega
    rw [List.cons_append, createIndexes, hfirst, if_neg (by decide), createIndex_eq_indexed,
      ih _ hrest, indexed_indexed, hplace]
    rfl

def granted (refuses : Refusal) (place : Nat) (fields : List String) : List String :=
  ((fields.zipIdx place).takeWhile fun (f, k) => !refuses k f).map Prod.fst

theorem granted_append (more : List String) (h : Grants refuses place fields)
    (hmore : ∀ f ∈ more.head?, refuses (place + fields.length) f = true) :
    granted refuses place (fields ++ more) = fields := by
  unfold granted
  induction fields generalizing place with
  | nil =>
    cases more with
    | nil => rfl
    | cons f after =>
      have hf : refuses place f = true := hmore f rfl
      simp [hf]
  | cons field rest ih =>
    obtain ⟨hfirst, hrest⟩ := grants_cons_iff.mp h
    have hplace : place + 1 + rest.length = place + (field :: rest).length := by
      rw [List.length_cons]
      omega
    rw [← hplace] at hmore
    simp [hfirst, ih hrest hmore]

end Store

namespace Repository

variable {r : Repository} {registry : Registry} {refuses : Refusal}

def indexed (r : Repository) (fields : List String) : Repository :=
  { r with store := r.store.indexed fields }

theorem indexed_nil (r : Repository) : r.indexed [] = r := by
  rw [indexed, Store.indexed_nil]

theorem indexed_indexed (r : Repository) (fields more : List String) :
    (r.indexed fields).indexed more = r.indexed (fields ++ more) := by
  simp only [indexed, Store.indexed_indexed]

/-- What becomes of a repository whose indexes are not known to be complete. From its first field on
they are created, all of them or those before the first that is refused. -/
inductive Attempt (r : Repository) (registry : Registry) (refuses : Refusal) : Ensured → Prop where
  | completes (h : Store.Grants refuses 0 r.indexFields) :
    Attempt r registry refuses
      ⟨r.indexed r.indexFields, r.store.name :: registry, r.indexFields.map r.store.created,
        .ok true⟩
  | stops {before after : List String} {f : String} (hfields : r.indexFields = before ++ f :: after)
    (hbefore : Store.Grants refuses 0 before) (hf : refuses before.length f = true) :
    Attempt r registry refuses
      ⟨r.indexed before, registry, before.map r.store.created,
        .error (.internal (.indexRefused f))⟩

theorem ensureIndexes_of_mem (h : r.store.name ∈ registry) :
    r.ensureIndexes registry refuses = ⟨r, registry, [], .ok false⟩ := by
  simp [ensureIndexes, h]

theorem attempt_ensureIndexes (h : r.store.name ∉ registry) (refuses : Refusal) :
    Attempt r registry refuses (r.ensureIndexes registry refuses) := by
  have hrun : r.ensureIndexes registry refuses =
      let run := r.store.createIndexes refuses 0 r.indexFields
      let once := registry.ensureOnce r.store.name run.result
      ⟨{ r with store := run.store }, once.1, run.log, once.2⟩ := by
    simp [ensureIndexes, h]
  rw [hrun]
  rcases Store.grants_or_refused refuses 0 r.indexFields with hall | ⟨before, f, after, hfields,
    hbefore, hf⟩
  · have hcreated := Store.createIndexes_append r.store hall []
    rw [List.append_nil] at hcreated
    rw [hcreated]
    simpa [Registry.ensureOnce, h, Store.createIndexes, indexed] using Attempt.completes hall
  · have hcreated := Store.createIndexes_append r.store hbefore (f :: after)
    rw [Nat.zero_add] at hcreated hf
    rw [← hfields] at hcreated
    rw [hcreated]
    simpa [Registry.ensureOnce, h, Store.createIndexes, hf, indexed]
      using Attempt.stops hfields hbefore hf

theorem exists_ensureIndexes_eq_indexed (r : Repository) (registry : Registry)
    (refuses : Refusal) :
    ∃ fields, (r.ensureIndexes registry refuses).repository = r.indexed fields := by
  by_cases h : r.store.name ∈ registry
  · refine ⟨[], ?_⟩
    rw [ensureIndexes_of_mem h, indexed_nil]
  · have ha := attempt_ensureIndexes h refuses
    generalize r.ensureIndexes registry refuses = e at ha
    cases ha with
    | completes => exact ⟨_, rfl⟩
    | stops => exact ⟨_, rfl⟩

theorem ensureIndexes_unchanged (r : Repository) (registry : Registry) (refuses : Refusal) :
    (r.ensureIndexes registry refuses).repository.config = r.config
      ∧ (r.ensureIndexes registry refuses).repository.store.documents = r.store.documents := by
  obtain ⟨fields, h⟩ := exists_ensureIndexes_eq_indexed r registry refuses
  rw [h]
  exact ⟨rfl, rfl⟩

/-- Indexes that are there are not refused later. -/
theorem ensureIndexes_again {b : Bool} (h : (r.ensureIndexes registry refuses).result = .ok b) :
    ((r.ensureIndexes registry refuses).repository.ensureIndexes
      (r.ensureIndexes registry refuses).registry refuses).result = .ok false := by
  by_cases hdone : r.store.name ∈ registry
  · rw [ensureIndexes_of_mem hdone, ensureIndexes_of_mem hdone]
  · have ha := attempt_ensureIndexes hdone refuses
    generalize r.ensureIndexes registry refuses = e at ha h
    cases ha with
    | completes => exact congrArg Ensured.result (ensureIndexes_of_mem List.mem_cons_self)
    | stops => cases h

/-- Whatever a search comes to, it leaves behind what the indexes came to. -/
theorem search_state (r : Repository) (registry : Registry) (refuses : Refusal)
    (criteria : Criteria) :
    (r.search registry refuses criteria).repository
        = (r.ensureIndexes registry refuses).repository
      ∧ (r.search registry refuses criteria).registry
        = (r.ensureIndexes registry refuses).registry := by
  unfold search
  dsimp only
  split
  · exact ⟨rfl, rfl⟩
  · split <;> exact ⟨rfl, rfl⟩

end Repository

end DocQuery
