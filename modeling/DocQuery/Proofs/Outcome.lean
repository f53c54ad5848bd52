import DocQuery.Criteria.Error
import Mathlib.Data.List.Forall2

/-!
Steps that can fail: what the outcome of several steps says of each, what they fail with, which
outcomes go together, and what the outcome of a test says of two properties, one that it decides and
one under which it fails.
-/
namespace DocQuery

variable {α β : Type}

theorem bind_eq_ok_iff {x : Except Error α} {f : α → Except Error β} {b : β} :
    (x >>= f) = .ok b ↔ ∃ a, x = .ok a ∧ f a = .ok b := by
  cases x <;> simp [bind, Except.bind]

theorem bind_eq_error_iff {x : Except Error α} {f : α → Except Error β} {e : Error} :
    (x >>= f) = .error e ↔ x = .error e ∨ ∃ a, x = .ok a ∧ f a = .error e := by
  cases x <;> simp [bind, Except.bind]

@[simp] theorem map_eq_ok_iff {x : Except Error α} {f : α → β} {b : β} :
    x.map f = .ok b ↔ ∃ a, x = .ok a ∧ f a = b := by
  cases x <;> simp [Except.map]

@[simp] theorem map_eq_error_iff {x : Except Error α} {f : α → β} {e : Error} :
    x.map f = .error e ↔ x = .error e := by
  cases x <;> simp [Except.map]

theorem exists_error_iff {x : Except Error α} : (∃ e, x = .error e) ↔ ∀ a, x ≠ .ok a := by
  cases x <;> simp

theorem bind_both_eq_ok_true_iff {x y : Except Error Bool} :
    (x >>= fun b => if b then y else .ok false) = .ok true ↔ x = .ok true ∧ y = .ok true := by
  cases x with
  | error e => simp [bind, Except.bind]
  | ok b => cases b <;> simp [bind, Except.bind]

@[simp] theorem bind_ite_ok (x : Except Error Bool) :
    (x >>= fun b => if b then .ok true else .ok false) = x := by
  cases x with
  | error e => rfl
  | ok b => cases b <;> rfl

/-- Steps on the items of a list succeed together, each with its own result. -/
theorem mapM_eq_ok_iff {f : α → Except Error β} {l : List α} {ys : List β} :
    l.mapM f = .ok ys ↔ List.Forall₂ (fun x y => f x = .ok y) l ys := by
  induction l generalizing ys with
  | nil => simp [List.mapM_nil, pure, Except.pure, eq_comm]
  | cons x rest ih =>
    rw [List.mapM_cons, List.forall₂_cons_left_iff]
    simp only [bind_eq_ok_iff, ih, pure, Except.pure, Except.ok.injEq]
    grind

theorem exists_forall₂_iff {R : α → β → Prop} {l : List α} :
    (∃ ys, List.Forall₂ R l ys) ↔ ∀ x ∈ l, ∃ y, R x y := by
  induction l with
  | nil => simp
  | cons x rest ih =>
    rw [List.forall_mem_cons, ← ih]
    constructor
    · rintro ⟨_, _ | ⟨hx, hrest⟩⟩
      exact ⟨⟨_, hx⟩, _, hrest⟩
    · rintro ⟨⟨y, hx⟩, ys, hrest⟩
      exact ⟨y :: ys, .cons hx hrest⟩

theorem exists_mem_of_forall₂ {R : α → β → Prop} {l : List α} {ys : List β}
    (h : List.Forall₂ R l ys) {x : α} (hx : x ∈ l) : ∃ y ∈ ys, R x y := by
  induction h with
  | nil => cases hx
  | @cons a b as bs hab _ ih =>
    rcases List.mem_cons.mp hx with rfl | hx
    · exact ⟨b, by simp, hab⟩
    · obtain ⟨y, hy, hxy⟩ := ih hx
      exact ⟨y, by simp [hy], hxy⟩

theorem forall₂_congr_of_mem {R S : α → β → Prop} {l : List α} {ys : List β}
    (h : ∀ x ∈ l, ∀ y, R x y ↔ S x y) : List.Forall₂ R l ys ↔ List.Forall₂ S l ys := by
  induction l generalizing ys with
  | nil => simp
  | cons x rest ih =>
    rw [List.forall_mem_cons] at h
    simp only [List.forall₂_cons_left_iff, h.1, ih h.2]

theorem exists_mapM_eq_ok_iff {f : α → Except Error β} {l : List α} :
    (∃ ys, l.mapM f = .ok ys) ↔ ∀ x ∈ l, ∃ y, f x = .ok y := by
  simp only [mapM_eq_ok_iff, exists_forall₂_iff]

/-- Going through a list, past items that let pass, an item is met that stops. -/
def Meets (stops passes : α → Prop) (l : List α) : Prop :=
  ∃ before x after, l = before ++ x :: after ∧ (∀ y ∈ before, passes y) ∧ stops x

theorem not_meets_nil {stops passes : α → Prop} : ¬ Meets stops passes [] := by
  rintro ⟨before, x, after, h, -⟩
  simp at h

theorem meets_cons_iff {stops passes : α → Prop} {x : α} {l : List α} :
    Meets stops passes (x :: l) ↔ stops x ∨ passes x ∧ Meets stops passes l := by
  constructor
  · rintro ⟨before, y, after, h, hpass, hstop⟩
    cases before with
    | nil =>
      cases h
      exact .inl hstop
    | cons z before =>
      cases h
      exact .inr ⟨hpass x (by simp), before, y, after, rfl, fun w hw => hpass w (by simp [hw]), hstop⟩
  · rintro (hstop | ⟨hpass, before, y, after, rfl, hall, hstop⟩)
    · exact ⟨[], x, l, rfl, by simp, hstop⟩
    · exact ⟨x :: before, y, after, rfl, by simpa using ⟨hpass, hall⟩, hstop⟩

theorem meets_of_exists {stops passes : α → Prop} {l : List α}
    (h : ∀ x ∈ l, stops x ∨ passes x) (hstop : ∃ x ∈ l, stops x) : Meets stops passes l := by
  induction l with
  | nil => simp at hstop
  | cons x rest ih =>
    rw [List.forall_mem_cons] at h
    rw [List.exists_mem_cons_iff] at hstop
    rw [meets_cons_iff]
    rcases h.1 with hx | hx
    · exact .inl hx
    · exact hstop.imp_right fun hrest => ⟨hx, ih h.2 hrest⟩

/-- Steps on the items of a list fail with the first that fails. -/
theorem mapM_eq_error_iff {f : α → Except Error β} {l : List α} {e : Error} :
    l.mapM f = .error e ↔ Meets (fun x => f x = .error e) (fun x => ∃ y, f x = .ok y) l := by
  induction l with
  | nil => simp [List.mapM_nil, pure, Except.pure, not_meets_nil]
  | cons x rest ih =>
    rw [List.mapM_cons, meets_cons_iff, ← ih]
    cases f x with
    | error e' => simp [bind, Except.bind]
    | ok y => cases rest.mapM f <;> simp [bind, Except.bind, pure, Except.pure]

def FailsOnly (P : Error → Prop) (x : Except Error α) : Prop := ∀ e, x = .error e → P e

namespace FailsOnly

variable {P Q : Error → Prop} {x : Except Error α}

theorem ok (a : α) : FailsOnly P (.ok a : Except Error α) := nofun

theorem error {e : Error} (h : P e) : FailsOnly P (.error e : Except Error α) := by
  rintro _ ⟨⟩
  exact h

theorem mono (h : FailsOnly P x) (hPQ : ∀ e, P e → Q e) : FailsOnly Q x :=
  fun e he => hPQ e (h e he)

theorem map (h : FailsOnly P x) (f : α → β) : FailsOnly P (x.map f) :=
  fun e he => h e (map_eq_error_iff.mp he)

theorem bind {f : α → Except Error β} (hx : FailsOnly P x) (hf : ∀ a, FailsOnly P (f a)) :
    FailsOnly P (x >>= f) := by
  cases x with
  | error e => exact .error (hx e rfl)
  | ok a => exact hf a

end FailsOnly

/-- Two steps fail with the same error, or their results are related. -/
inductive GoTogether (R : α → β → Prop) : Except Error α → Except Error β → Prop where
  | error (e : Error) : GoTogether R (.error e) (.error e)
  | ok {a : α} {b : β} (h : R a b) : GoTogether R (.ok a) (.ok b)

namespace GoTogether

variable {γ δ : Type}

theorem same {R : α → α → Prop} {x : Except Error α} (h : ∀ a, x = .ok a → R a a) :
    GoTogether R x x := by
  cases x with
  | error e => exact .error e
  | ok a => exact .ok (h a rfl)

theorem map {R : α → β → Prop} {S : γ → δ → Prop} {x : Except Error α} {y : Except Error β}
    {f : α → γ} {g : β → δ} (h : GoTogether R x y) (hfg : ∀ a b, R a b → S (f a) (g b)) :
    GoTogether S (x.map f) (y.map g) := by
  cases h with
  | error e => exact .error e
  | ok h => exact .ok (hfg _ _ h)

theorem mapM {f : γ → Except Error α} {g : γ → Except Error β} {R : γ → α → β → Prop}
    {l : List γ} (h : ∀ x ∈ l, GoTogether (R x) (f x) (g x)) :
    GoTogether (fun ys zs => ∃ pairs : List (α × β),
      List.Forall₂ (fun x p => R x p.1 p.2) l pairs
        ∧ ys = pairs.map Prod.fst ∧ zs = pairs.map Prod.snd) (l.mapM f) (l.mapM g) := by
  induction l with
  | nil => exact .ok ⟨[], .nil, rfl, rfl⟩
  | cons x rest ih =>
    rw [List.forall_mem_cons] at h
    have hx := h.1
    have hrest := ih h.2
    rw [List.mapM_cons, List.mapM_cons]
    generalize f x = y, g x = z at hx
    generalize rest.mapM f = ys, rest.mapM g = zs at hrest
    cases hx with
    | error e => exact .error e
    | @ok a b hab =>
      cases hrest with
      | error e => exact .error e
      | ok hpairs =>
        obtain ⟨pairs, hpairs, rfl, rfl⟩ := hpairs
        exact .ok ⟨(a, b) :: pairs, .cons hab hpairs, rfl, rfl⟩

end GoTogether

/-- A test decides whether what is meant holds, except that it fails, by a broken predicate, when it
is blocked. -/
structure Answers (x : Except Error Bool) (meant blocked : Prop) : Prop where
  truth : ∀ b, x = .ok b → (b = true ↔ meant)
  failure : (∃ e, x = .error e) ↔ blocked
  internal : ∀ e, x = .error e → e.kind = .internal

namespace Answers

variable {x y : Except Error Bool} {p q s t : Prop}

theorem ofOk {b : Bool} (h : b = true ↔ s) : Answers (.ok b) s False where
  truth c hc := by
    cases hc
    exact h
  failure := by simp
  internal e he := by cases he

theorem ofInternal (cause : Broken) : Answers (.error (.internal cause)) s True where
  truth b hb := by cases hb
  failure := by simp
  internal e he := by
    cases he
    rfl

theorem exists_ok (h : Answers x s p) (hp : ¬ p) : ∃ b, x = .ok b ∧ (b = true ↔ s) := by
  cases x with
  | error e => exact absurd (h.failure.mp ⟨e, rfl⟩) hp
  | ok b => exact ⟨b, rfl, h.truth b rfl⟩

theorem bind {f : Bool → Except Error Bool} (hx : Answers x s p) (hyes : s → Answers (f true) t q)
    (hno : ¬ s → Answers (f false) t q) : Answers (x >>= f) t (p ∨ q) := by
  cases x with
  | error e =>
    have hp : p := hx.failure.mp ⟨e, rfl⟩
    exact ⟨fun b hb => by simp [Bind.bind, Except.bind] at hb,
      by simp [Bind.bind, Except.bind, hp],
      fun e' he => hx.internal e' (by simpa [Bind.bind, Except.bind] using he)⟩
  | ok b =>
    have hp : ¬ p := fun h => by simpa using hx.failure.mpr h
    have hs := hx.truth b rfl
    rw [or_iff_right hp]
    cases b with
    | true => exact hyes (hs.mp rfl)
    | false => exact hno fun h => by simpa using hs.mpr h

/-- The second test is made only if the first says no. -/
theorem either (hx : Answers x s p) (hy : Answers y t q) :
    Answers (x >>= fun b => if b then .ok true else y) (s ∨ t) (p ∨ ¬ s ∧ q) := by
  refine hx.bind (fun hs => ?_) fun hs => ?_
  · simpa [hs] using ofOk (b := true) (s := s ∨ t) (by simp [hs])
  · simpa [hs] using hy

theorem both (hx : Answers x s p) (hy : Answers y t q) :
    Answers (x >>= fun b => if b then y else .ok false) (s ∧ t) (p ∨ s ∧ q) := by
  refine hx.bind (fun hs => ?_) fun hs => ?_
  · simpa [hs] using hy
  · simpa [hs] using ofOk (b := false) (s := s ∧ t) (by simp [hs])

end Answers

end DocQuery
