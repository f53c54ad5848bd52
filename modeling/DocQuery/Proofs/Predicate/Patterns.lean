import DocQuery.Proofs.Predicate.Evaluation

/-!
Matchers read their patterns up front and lose nothing by it: a matcher exists when all patterns of
the predicate can be read, and then it answers as if each pattern were read on demand.
-/
namespace DocQuery

namespace Predicate

theorem mem_patterns_iff {t : String} {p : List (String × Value)} :
    t ∈ patterns p ↔ ∃ e ∈ p, t ∈ patternsUnder e.1 e.2 := by
  induction p with
  | nil => simp [patterns]
  | cons e rest ih => simp [patterns, ih]

theorem mem_itemPatterns_documents_iff {t : String} {ps : List Document} :
    t ∈ itemPatterns (ps.map .document) ↔ ∃ p ∈ ps, t ∈ patterns p := by
  induction ps with
  | nil => simp [itemPatterns]
  | cons p rest ih => simp [itemPatterns, ih]

def Readable (text : String) : Prop := ∃ p, Pattern.read? text = some p

theorem readable_iff {text : String} : Readable text ↔ ∃ p, onDemand text = .ok p := by
  unfold Readable onDemand
  cases Pattern.read? text <;> simp

end Predicate

namespace Matcher

/-- What a table of patterns holds was read from its text. -/
def Faithful (read : Predicate.Resolver) (table : List (String × Pattern)) : Prop :=
  ∀ t p, table.lookup t = some p → read t = .ok p

variable {read : Predicate.Resolver} {known table : List (String × Pattern)}

theorem Faithful.append_read (h : Faithful read known) {text : String} {p : Pattern}
    (hp : read text = .ok p) : Faithful read (known ++ [(text, p)]) := by
  intro t q hq
  rw [List.lookup_append, Option.or_eq_some_iff] at hq
  rcases hq with hq | ⟨_, hq⟩
  · exact h t q hq
  · by_cases ht : t = text
    · subst ht
      rw [List.lookup_cons_self, Option.some.injEq] at hq
      rw [← hq, hp]
    · have hne : (t == text) = false := by simpa using ht
      simp [List.lookup_cons, hne] at hq

/-- Reading keeps what is known and adds every text asked for. -/
theorem readAll_ok {texts : List String} (h : readAll read known texts = .ok table)
    (hk : Faithful read known) :
    Faithful read table ∧ (∀ t, (known.lookup t).isSome → (table.lookup t).isSome) ∧
      ∀ t ∈ texts, (table.lookup t).isSome := by
  induction texts generalizing known with
  | nil =>
    simp only [readAll, Except.ok.injEq] at h
    subst h
    exact ⟨hk, fun _ ht => ht, by simp⟩
  | cons text rest ih =>
    simp only [readAll] at h
    split at h
    next q hq =>
      obtain ⟨hf, hkeep, hrest⟩ := ih h hk
      have htext : (table.lookup text).isSome := hkeep text (by simp [hq])
      exact ⟨hf, hkeep, List.forall_mem_cons.mpr ⟨htext, hrest⟩⟩
    next hq =>
      cases hp : read text with
      | error e => simp [hp, bind, Except.bind] at h
      | ok p =>
        rw [hp] at h
        obtain ⟨hf, hkeep, hrest⟩ := ih h (hk.append_read hp)
        have htext : (table.lookup text).isSome := hkeep text (by simp [List.lookup_append])
        refine ⟨hf, fun t ht => hkeep t ?_, List.forall_mem_cons.mpr ⟨htext, hrest⟩⟩
        simp [List.lookup_append, ht]

theorem exists_readAll {texts : List String} (h : ∀ t ∈ texts, ∃ p, read t = .ok p)
    (known : List (String × Pattern)) : ∃ table, readAll read known texts = .ok table := by
  induction texts generalizing known with
  | nil => exact ⟨known, rfl⟩
  | cons text rest ih =>
    obtain ⟨p, hp⟩ := h text (by simp)
    have hrest : ∀ t ∈ rest, ∃ p, read t = .ok p := fun t ht => h t (by simp [ht])
    simp only [readAll]
    split
    · exact ih hrest known
    · rw [hp]
      exact ih hrest _

/-- Reading fails with the error of the first text that cannot be read. -/
theorem readAll_eq_error_iff {texts : List String} {e : Error} (hk : Faithful read known) :
    readAll read known texts = .error e
      ↔ Meets (fun t => read t = .error e) (fun t => ∃ p, read t = .ok p) texts := by
  induction texts generalizing known with
  | nil => simp [readAll, not_meets_nil]
  | cons text rest ih =>
    rw [meets_cons_iff]
    simp only [readAll]
    split
    next q hq =>
      have hread : read text = .ok q := hk text q hq
      rw [ih hk, hread]
      simp
    next hq =>
      cases hp : read text with
      | error e' => simp [bind, Except.bind]
      | ok p =>
        rw [← ih (hk.append_read hp)]
        simp [bind, Except.bind]

variable {p d : Document} {m : Matcher}

/-- A matcher is refused for the first pattern that cannot be read, and for nothing else. -/
theorem ofPredicate_eq_error_iff {e : Error} : ofPredicate p = .error e
    ↔ Meets (fun t => ¬ Predicate.Readable t ∧ e = .invalidShape (.pattern t)) Predicate.Readable
        (Predicate.patterns p) := by
  have hread : (fun t => Predicate.onDemand t = .error e)
      = fun t => ¬ Predicate.Readable t ∧ e = .invalidShape (.pattern t) := by
    funext t
    unfold Predicate.onDemand Predicate.Readable
    cases Pattern.read? t <;> simp [eq_comm]
  have hreadable : (fun t => ∃ q, Predicate.onDemand t = .ok q) = Predicate.Readable :=
    funext fun t => propext Predicate.readable_iff.symm
  have hnone : Faithful Predicate.onDemand [] := by simp [Faithful]
  rw [← hread, ← hreadable, ← readAll_eq_error_iff hnone]
  unfold ofPredicate
  cases readAll Predicate.onDemand [] (Predicate.patterns p) <;>
    simp [bind, Except.bind, pure, Except.pure]

/-- A matcher holds its predicate and, read from their texts, all patterns in it. -/
theorem ofPredicate_ok (h : ofPredicate p = .ok m) :
    m.predicate = p ∧ Faithful Predicate.onDemand m.patterns
      ∧ ∀ t ∈ Predicate.patterns p, (m.patterns.lookup t).isSome := by
  unfold ofPredicate at h
  cases ht : readAll Predicate.onDemand [] (Predicate.patterns p) with
  | error e => simp [ht, bind, Except.bind] at h
  | ok table =>
    rw [ht] at h
    cases h
    obtain ⟨hf, -, htexts⟩ := readAll_ok ht (by simp [Faithful])
    exact ⟨rfl, hf, htexts⟩

theorem resolve_eq_onDemand (h : ofPredicate p = .ok m) {t : String}
    (ht : t ∈ Predicate.patterns p) : m.resolve t = Predicate.onDemand t := by
  obtain ⟨-, hf, htexts⟩ := ofPredicate_ok h
  obtain ⟨q, hq⟩ := Option.isSome_iff_exists.mp (htexts t ht)
  simp [resolve, hq, hf t q hq]

theorem exists_ofPredicate_iff :
    (∃ m, ofPredicate p = .ok m) ↔ ∀ t ∈ Predicate.patterns p, Predicate.Readable t := by
  constructor
  · rintro ⟨m, h⟩ t ht
    obtain ⟨-, hf, htexts⟩ := ofPredicate_ok h
    obtain ⟨q, hq⟩ := Option.isSome_iff_exists.mp (htexts t ht)
    exact Predicate.readable_iff.mpr ⟨q, hf t q hq⟩
  · intro h
    obtain ⟨table, ht⟩ := exists_readAll (fun t hmem => Predicate.readable_iff.mp (h t hmem)) []
    exact ⟨⟨p, table⟩, by simp [ofPredicate, ht, bind, Except.bind, pure, Except.pure]⟩

/-- A matcher answers as if patterns were read on demand. -/
theorem holds_eq_onDemand (h : ofPredicate p = .ok m) (d : Document) :
    m.holds d = Predicate.entriesHold Predicate.onDemand d p := by
  unfold holds
  rw [(ofPredicate_ok h).1]
  exact Predicate.entriesHold_congr d p fun _ ht => resolve_eq_onDemand h ht

end Matcher

namespace Document

variable {d p : Document}

theorem satisfies_eq_ok_iff {b : Bool} : d.satisfies p = .ok b
    ↔ (∀ t ∈ Predicate.patterns p, Predicate.Readable t)
      ∧ Predicate.entriesHold Predicate.onDemand d p = .ok b := by
  rw [← Matcher.exists_ofPredicate_iff]
  unfold satisfies
  cases h : Matcher.ofPredicate p with
  | error e => simp [bind, Except.bind]
  | ok m => simp [bind, Except.bind, Matcher.holds_eq_onDemand h]

/-- A document satisfies a predicate when it satisfies each entry on its own. -/
theorem satisfies_true_iff_entries :
    d.satisfies p = .ok true ↔ ∀ e ∈ p, d.satisfies [e] = .ok true := by
  simp only [satisfies_eq_ok_iff, Predicate.mem_patterns_iff, List.mem_singleton]
  rw [Predicate.entriesHold_eq_ok_true_iff]
  grind

theorem satisfies_and_true_iff {ps : List Document} :
    d.satisfies [("$and", .array (ps.map .document))] = .ok true
      ↔ ∀ p ∈ ps, d.satisfies p = .ok true := by
  simp only [satisfies_eq_ok_iff, Predicate.entriesHold_and_eq_ok_true_iff, Predicate.patterns,
    Predicate.patternsUnder, List.append_nil, Predicate.mem_itemPatterns_documents_iff]
  grind

end Document

namespace Predicate

/-- What is asked before a value is looked at: that all patterns can be read, and that the key of
the condition is a path. -/
def opened (key : String) (texts : List String) : Except Error Unit := do
  let _ ← Matcher.readAll onDemand [] texts
  if key = "$or" || key = "$and" then .error (.internal (.notAnArray key))
  else if isDollar key then .error (.internal (.topLevelOperator key))
  else .ok ()

theorem opened_eq_of_path {path : String} (h : isDollar path = false) (texts : List String) :
    opened path texts = (Matcher.readAll onDemand [] texts).map fun _ => () := by
  obtain ⟨hor, hand⟩ := ne_of_isDollar_eq_false h
  unfold opened
  cases Matcher.readAll onDemand [] texts with
  | error e => rfl
  | ok table => simp [hor, hand, h, bind, Except.bind, Except.map]

theorem opened_path {path : String} (h : isDollar path = false) : opened path [] = .ok () :=
  opened_eq_of_path h []

/-- Only the condition itself depends on the document. -/
theorem satisfies_condition (key : String) (p d : Document) :
    d.satisfies [(key, .document p)]
      = opened key (patterns p) >>= fun _ => conditionHolds onDemand (d.at? key) (.document p) := by
  have hpatterns : patterns [(key, .document p)] = patterns p := by simp [patterns, patternsUnder]
  unfold opened
  rw [← hpatterns]
  cases hread : Matcher.readAll onDemand [] (patterns [(key, .document p)]) with
  | error e =>
    have hrefused : Matcher.ofPredicate [(key, .document p)] = .error e := by
      simp [Matcher.ofPredicate, hread, bind, Except.bind]
    rw [Document.satisfies, hrefused]
    rfl
  | ok table =>
    have hm : Matcher.ofPredicate [(key, .document p)] = .ok ⟨[(key, .document p)], table⟩ := by
      simp [Matcher.ofPredicate, hread, bind, Except.bind, pure, Except.pure]
    rw [Document.satisfies, hm]
    change Matcher.holds _ d = _
    rw [Matcher.holds_eq_onDemand hm, entriesHold_singleton]
    by_cases hor : key = "$or"
    · simp [hor, someBranch, bind, Except.bind]
    · by_cases hand : key = "$and"
      · simp [hand, everyBranch, bind, Except.bind]
      · cases hdollar : isDollar key <;> simp [hor, hand, bind, Except.bind]

end Predicate

end DocQuery
