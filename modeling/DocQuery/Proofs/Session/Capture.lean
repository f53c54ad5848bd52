import DocQuery.Proofs.Outcome
import DocQuery.Session.Step
import Mathlib

/-!
What a capture of events holds. It is a hidden part of a session: conversions add to it, whether
they are asked for as such or made by a search, and steps of its own start it, take from it and end
it. A take gives the events of the conversions made since the last of these steps, if a capture is
active.
-/
namespace DocQuery

namespace Step

/-- From these steps on, events are held that were not taken. -/
def isMark : Step → Bool
  | capture | take => true
  | _ => false

def leavesCapture : Step → Bool
  | capture | take | release => false
  | _ => true

theorem leavesCapture_or (x : Step) :
    x.leavesCapture = true ∨ x = capture ∨ x = take ∨ x = release := by
  cases x <;> simp [leavesCapture]

end Step

namespace Session

variable {s : Session} {x : Step} {steps : List Step}

section Events

/-- A search converts its criteria once the indexes are there, whatever it then finds. -/
def searchConversion? (s : Session) (name : String) (input : CriteriaInput) : Option Conversion :=
  match s.member? name, input.criteria with
  | some m, .ok criteria =>
    match (m.repository.ensureIndexes (s.registry m.registry) m.refuses).result,
      criteria.convert m.repository.config with
    | .ok _, .ok v => some v
    | _, _ => none
  | _, _ => none

def conversion? (s : Session) : Step → Option Conversion
  | .convert config input =>
    (input.criteria.bind fun criteria => criteria.convert config).toOption
  | .search name input | .searchText name input => s.searchConversion? name input
  | _ => none

def eventsOf (s : Session) (x : Step) : List Event :=
  ((s.conversion? x).map Conversion.event).toList

def events (s : Session) : List Step → List Event
  | [] => []
  | x :: rest => s.eventsOf x ++ (s.step x).1.events rest

end Events

section Step

def given : Except Error Reply → List Event
  | .ok (.events (some es)) => es
  | _ => []

theorem given_map {α : Type} {reply : α → Reply} (h : ∀ a, given (.ok (reply a)) = [])
    (result : Except Error α) : given (result.map reply) = [] := by
  cases result with
  | error e => rfl
  | ok a => exact h a

/-- What comes of a step that gives no events and adds these to the capture. -/
structure Adds (s : Session) (out : Session × Except Error Reply) (es : List Event) : Prop where
  capture : out.1.capture = s.capture.map fun held => held ++ es
  given : given out.2 = []

theorem adds_nil {out : Session × Except Error Reply} (hc : out.1.capture = s.capture)
    (hg : given out.2 = []) : s.Adds out [] where
  capture := by
    rw [hc]
    cases s.capture <;> simp
  given := hg

theorem adds_withMember {name : String} {f : Member → Session × Except Error Reply}
    (h : ∀ m, s.Adds (f m) []) : s.Adds (s.withMember name f) [] := by
  unfold withMember
  cases s.member? name with
  | none => exact adds_nil rfl rfl
  | some m => exact h m

theorem conversion_search (r : Repository) (registry : Registry) (refuses : Refusal)
    (criteria : Criteria) :
    (r.search registry refuses criteria).conversion
      = match (r.ensureIndexes registry refuses).result, criteria.convert r.config with
        | .ok _, .ok v => some v
        | _, _ => none := by
  unfold Repository.search
  dsimp only
  cases (r.ensureIndexes registry refuses).result with
  | error e => rfl
  | ok created =>
    cases criteria.convert r.config with
    | error e => rfl
    | ok v => rfl

theorem adds_search (name : String) (input : CriteriaInput) {reply : Page → Reply}
    (h : ∀ p, given (.ok (reply p)) = []) :
    s.Adds (s.withMember name fun m => s.search name m input reply)
      ((s.searchConversion? name input).map Conversion.event).toList := by
  unfold withMember searchConversion?
  cases s.member? name with
  | none => exact adds_nil rfl rfl
  | some m =>
    unfold search
    cases input.criteria with
    | error e => exact adds_nil rfl rfl
    | ok criteria =>
      dsimp only
      rw [← conversion_search]
      cases (m.repository.search (s.registry m.registry) m.refuses criteria).conversion with
      | none => exact adds_nil rfl (given_map h _)
      | some v => exact ⟨rfl, given_map h _⟩

theorem adds_convert (config : Config) (input : CriteriaInput) :
    s.Adds (s.convert config input)
      ((input.criteria.bind fun criteria => criteria.convert config).toOption.map
        Conversion.event).toList := by
  unfold convert
  cases input.criteria.bind fun criteria => criteria.convert config with
  | error e => exact adds_nil rfl rfl
  | ok v => exact ⟨rfl, rfl⟩

theorem isSome_conversion_convert_iff (config : Config) (input : CriteriaInput) :
    (s.conversion? (.convert config input)).isSome = true
      ↔ ∃ r, (s.step (.convert config input)).2 = .ok r := by
  change (input.criteria.bind fun criteria => criteria.convert config).toOption.isSome = true
    ↔ ∃ r, (s.convert config input).2 = .ok r
  unfold convert
  cases input.criteria.bind fun criteria => criteria.convert config with
  | error e => simp [Except.toOption]
  | ok v => simp [Except.toOption]

theorem isSome_conversion_of_search {name : String} {m : Member} {input : CriteriaInput} {r : Reply}
    (hm : s.member? name = some m) (h : (s.step (.search name input)).2 = .ok r) :
    (s.conversion? (.search name input)).isSome = true := by
  have hreply : (s.search name m input .page).2 = .ok r := by simpa [step, withMember, hm] using h
  change (s.searchConversion? name input).isSome = true
  unfold searchConversion?
  rw [hm]
  unfold search at hreply
  cases hc : input.criteria with
  | error e => simp [hc] at hreply
  | ok criteria =>
    simp only [hc, Repository.search] at hreply ⊢
    cases he : (m.repository.ensureIndexes (s.registry m.registry) m.refuses).result with
    | error e => simp [he] at hreply
    | ok created =>
      cases hv : criteria.convert m.repository.config with
      | error e => simp [he, hv] at hreply
      | ok v => rfl

/-- A step that leaves the capture alone adds the event of its conversion, if it makes one. -/
theorem adds_step (h : x.leavesCapture = true) : s.Adds (s.step x) (s.eventsOf x) := by
  cases x with
  | capture | take | release => cases h
  | makeRepository | isInitialized => exact adds_nil rfl rfl
  | ensureOnce => exact adds_nil rfl rfl
  | insert name ds => exact adds_withMember fun m => adds_nil rfl rfl
  | state name => exact adds_withMember fun m => adds_nil rfl rfl
  | createIndex name field =>
    refine adds_withMember fun m => ?_
    unfold createIndex
    split
    · exact adds_nil rfl rfl
    · exact adds_nil rfl rfl
  | ensureIndexes name =>
    exact adds_withMember fun m => adds_nil rfl (given_map (fun _ => rfl) _)
  | find name query => exact adds_withMember fun m => adds_nil rfl (given_map (fun _ => rfl) _)
  | countStored name predicate =>
    exact adds_withMember fun m => adds_nil rfl (given_map (fun _ => rfl) _)
  | count name input => exact adds_withMember fun m => adds_nil rfl (given_map (fun _ => rfl) _)
  | search name input => exact adds_search name input fun _ => rfl
  | searchText name input => exact adds_search name input fun _ => rfl
  | convert config input => exact adds_convert config input

/-- An active capture goes on until it is ended. -/
theorem isSome_capture_step (s : Session) (x : Step) :
    (s.step x).1.capture.isSome = true ↔ x = .capture ∨ x ≠ .release ∧ s.capture.isSome = true := by
  rcases x.leavesCapture_or with hleaves | rfl | rfl | rfl
  · have hstart : x ≠ .capture := by
      rintro rfl
      cases hleaves
    have hend : x ≠ .release := by
      rintro rfl
      cases hleaves
    simp [(adds_step (s := s) hleaves).capture, hstart, hend]
  · simp [step]
  · simp [step]
  · simp [step]

end Step

section Run

def after (s : Session) (steps : List Step) : Session := (s.run steps).1

theorem after_cons (s : Session) (x : Step) (rest : List Step) :
    s.after (x :: rest) = (s.step x).1.after rest := rfl

theorem after_append (s : Session) (steps more : List Step) :
    s.after (steps ++ more) = (s.after steps).after more := by
  induction steps generalizing s with
  | nil => rfl
  | cons x rest ih => exact ih (s.step x).1

/-- The replies to a run, each by the session that the steps before it lead to. -/
theorem reply_run (s : Session) (steps : List Step) (x : Step) (rest : List Step) :
    (s.run (steps ++ x :: rest)).2[steps.length]? = some ((s.after steps).step x).2 := by
  induction steps generalizing s with
  | nil => rfl
  | cons y steps ih => exact ih (s.step y).1

theorem capture_after (h : ∀ x ∈ steps, x.leavesCapture = true) :
    (s.after steps).capture = s.capture.map fun held => held ++ s.events steps := by
  induction steps generalizing s with
  | nil =>
    change s.capture = _
    cases s.capture <;> simp [events]
  | cons x rest ih =>
    rw [List.forall_mem_cons] at h
    rw [after_cons, ih h.2, (adds_step h.1).capture, Option.map_map]
    simp [Function.comp_def, events]

/-- After these steps a capture is active: one was started and not ended since. -/
def Capturing (steps : List Step) : Prop :=
  ∃ before since, steps = before ++ .capture :: since ∧ .release ∉ since

theorem not_capturing_nil : ¬ Capturing [] := by
  rintro ⟨before, since, h, -⟩
  simp at h

theorem capturing_concat_iff :
    Capturing (steps ++ [x]) ↔ x = .capture ∨ x ≠ .release ∧ Capturing steps := by
  constructor
  · rintro ⟨before, since, h, hrelease⟩
    cases since using List.reverseRecOn with
    | nil =>
      obtain ⟨-, hx⟩ := List.append_inj' h rfl
      exact .inl (List.singleton_inj.mp hx)
    | append_singleton since y _ =>
      rw [← List.cons_append, ← List.append_assoc] at h
      obtain ⟨hsteps, hx⟩ := List.append_inj' h rfl
      obtain rfl : x = y := List.singleton_inj.mp hx
      simp only [List.mem_append, List.mem_singleton, not_or] at hrelease
      exact .inr ⟨Ne.symm hrelease.2, before, since, hsteps, hrelease.1⟩
  · rintro (rfl | ⟨hx, before, since, rfl, hrelease⟩)
    · exact ⟨steps, [], rfl, List.not_mem_nil⟩
    · refine ⟨before, since ++ [x], by simp, ?_⟩
      simp [hrelease, Ne.symm hx]

theorem isSome_capture_after (h : s.capture = none) (steps : List Step) :
    (s.after steps).capture.isSome = true ↔ Capturing steps := by
  induction steps using List.reverseRecOn with
  | nil => simp [after, run, h, not_capturing_nil]
  | append_singleton steps x ih =>
    rw [after_append, capturing_concat_iff, ← ih]
    exact isSome_capture_step _ x

/-- The last step of a history from which on events are held, and the steps since. -/
structure LastMark (history before : List Step) (mark : Step) (since : List Step) : Prop where
  eq : history = before ++ mark :: since
  isMark : mark.isMark = true
  leaves : ∀ x ∈ since, x.leavesCapture = true

theorem exists_lastMark (h : Capturing steps) :
    ∃ before mark since, LastMark steps before mark since := by
  induction steps using List.reverseRecOn with
  | nil => exact absurd h not_capturing_nil
  | append_singleton steps x ih =>
    rcases x.leavesCapture_or with hleaves | rfl | rfl | rfl
    · have hsteps : Capturing steps := by
        rcases capturing_concat_iff.mp h with rfl | ⟨-, hsteps⟩
        · cases hleaves
        · exact hsteps
      obtain ⟨before, mark, since, rfl, hmark, hsince⟩ := ih hsteps
      refine ⟨before, mark, since ++ [x], by simp, hmark, fun y hy => ?_⟩
      rcases List.mem_append.mp hy with hy | hy
      · exact hsince y hy
      · rw [List.mem_singleton.mp hy, hleaves]
    · exact ⟨steps, .capture, [], rfl, rfl, by simp⟩
    · exact ⟨steps, .take, [], rfl, rfl, by simp⟩
    · rcases capturing_concat_iff.mp h with hx | ⟨hx, -⟩
      · cases hx
      · exact absurd rfl hx

theorem capture_mark {mark : Step} (hmark : mark.isMark = true)
    (h : (s.step mark).1.capture.isSome = true) : (s.step mark).1.capture = some [] := by
  cases mark with
  | capture => rfl
  | take =>
    cases hs : s.capture with
    | none => simp [step, hs] at h
    | some held => simp [step, hs]
  | _ => cases hmark

/-- While a capture is active it holds the events since the last mark. -/
theorem capture_of_lastMark {history before since : List Step} {mark : Step}
    (h : LastMark history before mark since) (hactive : (s.after history).capture.isSome = true) :
    (s.after history).capture = some ((s.after (before ++ [mark])).events since) := by
  have hsplit : s.after history = (s.after (before ++ [mark])).after since := by
    rw [h.eq, List.append_cons, after_append]
  have hadds : (s.after history).capture
      = (s.after (before ++ [mark])).capture.map
        fun held => held ++ (s.after (before ++ [mark])).events since := by
    rw [hsplit, capture_after h.leaves]
  rw [hadds, Option.isSome_map, after_append] at hactive
  have hempty : (s.after (before ++ [mark])).capture = some [] := by
    rw [after_append]
    exact capture_mark h.isMark hactive
  rw [hadds, hempty]
  simp

/-- While a capture goes on, every event is given by one take or still held, in order. -/
theorem given_append_held {held : List Event} (hs : s.capture = some held)
    (h : ∀ x ∈ steps, x ≠ .capture ∧ x ≠ .release) :
    ∃ left, (s.after steps).capture = some left
      ∧ (s.run steps).2.flatMap given ++ left = held ++ s.events steps := by
  induction steps generalizing s held with
  | nil => exact ⟨held, hs, by simp [run, events]⟩
  | cons x rest ih =>
    rw [List.forall_mem_cons] at h
    obtain ⟨⟨hstart, hend⟩, hrest⟩ := h
    have hrun : (s.run (x :: rest)).2 = (s.step x).2 :: ((s.step x).1.run rest).2 := rfl
    rw [after_cons, hrun, List.flatMap_cons, events]
    rcases x.leavesCapture_or with hleaves | rfl | rfl | rfl
    · have hadds : (s.step x).1.capture = some (held ++ s.eventsOf x) := by
        rw [(adds_step hleaves).capture, hs, Option.map_some]
      obtain ⟨left, hleft, hgiven⟩ := ih hadds hrest
      refine ⟨left, hleft, ?_⟩
      rw [(adds_step hleaves).given, List.nil_append, hgiven, List.append_assoc]
    · exact absurd rfl hstart
    · have hempty : (s.step .take).1.capture = some [] := by simp [step, hs]
      have hheld : given (s.step .take).2 = held := by simp [step, given, hs]
      obtain ⟨left, hleft, hgiven⟩ := ih hempty hrest
      refine ⟨left, hleft, ?_⟩
      rw [hheld, List.append_assoc, hgiven]
      rfl
    · exact absurd rfl hend

/-- A take gives nothing where no capture is active. Where one is, there is a last step that started
it or took from it, and the take gives the events of the conversions made since, one for each and in
order. So what takes give of a capture, and what it still holds, are all the events since it was
started. A conversion that is asked for counts just if its reply is a query, and a search counts if
its reply is a page. -/
theorem take_gives_events_since (s : Session) (hs : s.capture = none) (history rest : List Step) :
    (¬ Capturing history →
      (s.run (history ++ .take :: rest)).2[history.length]? = some (.ok (.events none)))
    ∧ (Capturing history →
      (∃ before mark since, LastMark history before mark since)
      ∧ ∀ before mark since, LastMark history before mark since →
        (s.run (history ++ .take :: rest)).2[history.length]?
          = some (.ok (.events (some ((s.after (before ++ [mark])).events since)))))
    ∧ (∀ steps : List Step, (∀ x ∈ steps, x ≠ .capture ∧ x ≠ .release) →
      let started := s.after (history ++ [.capture])
      ∃ left, (started.after steps).capture = some left
        ∧ (started.run steps).2.flatMap given ++ left = started.events steps)
    ∧ ∀ t : Session,
      (∀ config input, (t.conversion? (.convert config input)).isSome = true
        ↔ ∃ r, (t.step (.convert config input)).2 = .ok r)
      ∧ ∀ name m input r, t.member? name = some m → (t.step (.search name input)).2 = .ok r →
        (t.conversion? (.search name input)).isSome = true := by
  have hreply : (s.run (history ++ .take :: rest)).2[history.length]?
      = some (.ok (.events (s.after history).capture)) := reply_run s history .take rest
  rw [hreply]
  refine ⟨fun h => ?_, fun h => ?_, fun steps hsteps => ?_, fun t =>
    ⟨isSome_conversion_convert_iff, fun _ _ _ _ hm => isSome_conversion_of_search hm⟩⟩
  · rw [← isSome_capture_after hs, Bool.not_eq_true, Option.isSome_eq_false_iff,
      Option.isNone_iff_eq_none] at h
    rw [h]
  · refine ⟨exists_lastMark h, fun before mark since hlast => ?_⟩
    rw [capture_of_lastMark hlast ((isSome_capture_after hs history).mpr h)]
  · have hstarted : (s.after (history ++ [.capture])).capture = some [] := by
      rw [after_append]
      rfl
    simpa using given_append_held hstarted hsteps

def emptyCriteria : CriteriaInput := .parts [] none none none none

def titleContains (text : String) : CriteriaInput :=
  .parts [[("field", .string "title"), ("operator", .string "CONTAINS"), ("value", .string text)]]
    none none none none

def opening : List Step := [.makeRepository "r" "books" .default none [] none]

def afterCapture : List Step :=
  [.convert .default emptyCriteria, .search "r" (titleContains "("), .count "r" emptyCriteria]

def badSearch : List Step := opening ++ .capture :: afterCapture

/-- The search converts and then finds a pattern that cannot be read. Its event is taken. -/
theorem take_gives_events_since_badSearch :
    Capturing badSearch
      ∧ (start.run (badSearch ++ [Step.take])).2[3]?
        = some (Except.error (Error.invalidShape (.pattern "(")))
      ∧ (start.run (badSearch ++ [Step.take])).2[5]? = some (Except.ok (Reply.events (some
        [⟨0, 0, .lastWriteWins, [], 0, 0⟩, ⟨1, 1, .lastWriteWins, [], 0, 0⟩]))) := by
  have hcapturing : Capturing badSearch := ⟨opening, afterCapture, rfl, by simp [afterCapture]⟩
  have hlast : LastMark badSearch opening .capture afterCapture :=
    ⟨rfl, rfl, by simp [afterCapture, Step.leavesCapture]⟩
  have hevents : (start.after (opening ++ [Step.capture])).events afterCapture
      = [⟨0, 0, .lastWriteWins, [], 0, 0⟩, ⟨1, 1, .lastWriteWins, [], 0, 0⟩] := by cbv
  obtain ⟨-, htake, -, -⟩ := take_gives_events_since start rfl badSearch []
  have hreply := (htake hcapturing).2 opening .capture afterCapture hlast
  rw [hevents] at hreply
  exact ⟨hcapturing, by cbv, hreply⟩

end Run

end Session

end DocQuery
