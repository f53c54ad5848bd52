import DocQuery.Command.Run
import Mathlib

/-!
Commands over channels with a state. What each command does is said in one equation, from which it
follows that a command fails before it has handed on any text, or fails in nothing but handing on its
texts.
-/
namespace DocQuery.Command

section Steps

variable {σ α β : Type}

def Channels.logged (ch : Channels (StateM σ)) (lines : List Log.Line) (s : σ) : σ :=
  lines.foldl (fun s line => (ch.log line s).2) s

theorem run_lift_bind (x : Except Error α) (f : α → ExceptT Error (StateM σ) β) (s : σ) :
    ((liftM x : ExceptT Error (StateM σ) α) >>= f).run.run s
      = match x with
        | .ok a => (f a).run.run s
        | .error e => (.error e, s) := by
  cases x <;> rfl

theorem run_logAll_bind (ch : Channels (StateM σ)) (lines : List Log.Line)
    (f : Unit → ExceptT Error (StateM σ) β) (s : σ) :
    (ch.logAll lines >>= f).run.run s = (f ()).run.run (ch.logged lines s) := by
  induction lines generalizing s with
  | nil => rfl
  | cons line rest ih =>
    have hfirst : (ch.logAll (line :: rest) >>= f).run.run s
        = (ch.logAll rest >>= f).run.run (ch.log line s).2 := rfl
    rw [hfirst, ih]
    rfl

end Steps

section Commands

variable {σ : Type} (ch : Channels (StateM σ)) (c : Config) (files : Files) (arg data : String)
  (s : σ)

theorem run_report (text : Criteria → Query → String) :
    (report ch c files text arg).run.run s
      = match request files arg with
        | .error e => (.error e, s)
        | .ok criteria =>
          match criteria.convert c with
          | .error e => (.error e, s)
          | .ok v => (ch.take (text criteria v.query)).run.run (ch.logged v.log s) := by
  rw [report, run_lift_bind]
  cases request files arg with
  | error e => rfl
  | ok criteria =>
    dsimp only
    rw [run_lift_bind]
    cases criteria.convert c with
    | error e => rfl
    | ok v => exact run_logAll_bind ch v.log _ s

/-- What a search of a store comes to that has no indexes to make and refuses none. -/
def sought (c : Config) (store : Store) (criteria : Criteria) : Repository.Searched :=
  (Repository.mk c [] store).search [] (fun _ _ => false) criteria

theorem run_run : (run ch c files arg data).run.run s
    = match request files arg with
      | .error e => (.error e, s)
      | .ok criteria =>
        match Data.load data (files data) with
        | .error e => (.error e, s)
        | .ok store =>
          match (sought c store criteria).result with
          | .error e => (.error e, ch.logged (sought c store criteria).log s)
          | .ok page =>
            (do handOn ch.take (page.items.map itemLine); ch.logAll [finished data page]).run.run
              (ch.logged (sought c store criteria).log s) := by
  rw [run, run_lift_bind]
  cases request files arg with
  | error e => rfl
  | ok criteria =>
    dsimp only
    rw [run_lift_bind]
    cases Data.load data (files data) with
    | error e => rfl
    | ok store =>
      dsimp only
      rw [run_logAll_bind, run_lift_bind, sought]
      cases ((Repository.mk c [] store).search [] (fun _ _ => false) criteria).result with
      | error e => rfl
      | ok page => rfl

end Commands

section Texts

variable {σ : Type} {take : Receiver (StateM σ)} {texts : List String} {s t : σ} {e : Error}

inductive Takes (take : Receiver (StateM σ)) : List String → σ → σ → Prop where
  | nil (s : σ) : Takes take [] s s
  | cons {text : String} {rest : List String} {s mid t : σ}
    (hfirst : (take text).run.run s = (.ok (), mid)) (hrest : Takes take rest mid t) :
    Takes take (text :: rest) s t

def Refuses (take : Receiver (StateM σ)) (texts : List String) (e : Error) (s t : σ) : Prop :=
  ∃ before text after mid, texts = before ++ text :: after ∧ Takes take before s mid
    ∧ (take text).run.run mid = (.error e, t)

theorem refuses_cons_iff {text : String} {rest : List String} :
    Refuses take (text :: rest) e s t ↔ (take text).run.run s = (.error e, t)
      ∨ ∃ mid, (take text).run.run s = (.ok (), mid) ∧ Refuses take rest e mid t := by
  constructor
  · rintro ⟨before, text', after, mid, h, htakes, hrefused⟩
    cases htakes with
    | nil =>
      cases h
      exact .inl hrefused
    | cons hfirst hrest =>
      cases h
      exact .inr ⟨_, hfirst, _, _, _, _, rfl, hrest, hrefused⟩
  · rintro (hrefused | ⟨mid, hfirst, before, text', after, last, rfl, htakes, hrefused⟩)
    · exact ⟨[], text, rest, s, rfl, .nil s, hrefused⟩
    · exact ⟨text :: before, text', after, last, rfl, .cons hfirst htakes, hrefused⟩

theorem run_handOn_cons (text : String) (rest : List String) (s : σ) :
    (handOn take (text :: rest)).run.run s
      = match (take text).run.run s with
        | (.ok (), mid) => (handOn take rest).run.run mid
        | (.error e, mid) => (.error e, mid) := by
  rw [handOn, ExceptT.run_bind, StateT.run_bind]
  rcases (take text).run.run s with ⟨_ | _, mid⟩ <;> rfl

theorem run_handOn_eq_ok_iff :
    (handOn take texts).run.run s = (.ok (), t) ↔ Takes take texts s t := by
  induction texts generalizing s with
  | nil =>
    constructor
    · intro h
      cases h
      exact .nil _
    · rintro ⟨⟩
      rfl
  | cons text rest ih =>
    rw [run_handOn_cons]
    constructor
    · intro h
      split at h
      next mid hfirst => exact .cons hfirst (ih.mp h)
      next => cases h
    · rintro (_ | ⟨hfirst, hrest⟩)
      rw [hfirst]
      exact ih.mpr hrest

theorem run_handOn_eq_error_iff :
    (handOn take texts).run.run s = (.error e, t) ↔ Refuses take texts e s t := by
  induction texts generalizing s with
  | nil =>
    refine iff_of_false nofun ?_
    rintro ⟨before, text, after, mid, h, -⟩
    simp at h
  | cons text rest ih =>
    rw [run_handOn_cons, refuses_cons_iff]
    rcases (take text).run.run s with ⟨_ | _, mid⟩
    · constructor
      · exact .inl
      · rintro (h | ⟨_, h, -⟩)
        · exact h
        · cases h
    · constructor
      · exact fun h => .inr ⟨mid, rfl, ih.mp h⟩
      · rintro (h | ⟨_, h, hrest⟩)
        · cases h
        · cases h
          exact ih.mpr hrest

end Texts

section Delivery

variable {σ : Type} {ch : Channels (StateM σ)} {p : ExceptT Error (StateM σ) Unit} {s : σ}
  {texts : List String} {before after : List Log.Line}

/-- Lines are logged, then texts are handed on, and where all of them are taken lines are logged
again. No error is met but that of a text which is refused. -/
structure Delivers (ch : Channels (StateM σ)) (p : ExceptT Error (StateM σ) Unit) (s : σ)
    (before : List Log.Line) (texts : List String) (after : List Log.Line) : Prop where
  whole : ∀ t, p.run.run s = (.ok (), t)
    ↔ ∃ mid, Takes ch.take texts (ch.logged before s) mid ∧ t = ch.logged after mid
  refused : ∀ e t, p.run.run s = (.error e, t) ↔ Refuses ch.take texts e (ch.logged before s) t

theorem run_handOn_bind_logAll (s : σ) :
    (do handOn ch.take texts; ch.logAll after).run.run s
      = match (handOn ch.take texts).run.run s with
        | (.ok (), mid) => (.ok (), ch.logged after mid)
        | (.error e, t) => (.error e, t) := by
  rw [ExceptT.run_bind, StateT.run_bind]
  rcases (handOn ch.take texts).run.run s with ⟨_ | _, mid⟩
  · rfl
  · have hbind := run_logAll_bind ch after pure mid
    rw [bind_pure] at hbind
    exact hbind

theorem delivers_of_run_eq (h : p.run.run s
    = (do handOn ch.take texts; ch.logAll after).run.run (ch.logged before s)) :
    Delivers ch p s before texts after := by
  rw [run_handOn_bind_logAll] at h
  constructor
  · intro t
    rw [h]
    rcases hrun : (handOn ch.take texts).run.run (ch.logged before s) with ⟨_ | _, mid⟩
    · refine iff_of_false nofun ?_
      rintro ⟨mid', htakes, -⟩
      rw [run_handOn_eq_ok_iff.mpr htakes] at hrun
      cases hrun
    · constructor
      · intro he
        cases he
        exact ⟨mid, run_handOn_eq_ok_iff.mp hrun, rfl⟩
      · rintro ⟨mid', htakes, rfl⟩
        rw [run_handOn_eq_ok_iff.mpr htakes] at hrun
        cases hrun
        rfl
  · intro e t
    rw [h, ← run_handOn_eq_error_iff]
    rcases (handOn ch.take texts).run.run (ch.logged before s) with ⟨_ | _, mid⟩
    · rfl
    · exact iff_of_false nofun nofun

end Delivery

variable {c : Config} {files : Files} {a : Action} {criteria : Criteria} {arg data : String}
  {texts : List String} {e : Error}

/-- Whatever the channels are, all that is done to them before the error is to log some lines. -/
def FailsFirst (c : Config) (files : Files) (a : Action) (e : Error) : Prop :=
  ∃ lines, ∀ (σ : Type) (ch : Channels (StateM σ)) (s : σ),
    (perform ch c files a).run.run s = (.error e, ch.logged lines s)

/-- Whatever the channels are, these texts are handed on, and nothing else can fail. -/
def HandsOn (c : Config) (files : Files) (a : Action) (texts : List String) : Prop :=
  ∃ before after, ∀ (σ : Type) (ch : Channels (StateM σ)) (s : σ),
    Delivers ch (perform ch c files a) s before texts after

/-- A command fails before it has handed on any text, or fails in nothing but handing on its texts. -/
inductive AllOrNothing (c : Config) (files : Files) (a : Action) : Prop where
  | nothing {e : Error} (h : FailsFirst c files a e)
  | all {texts : List String} (h : HandsOn c files a texts)

theorem allOrNothing_of_report (text : Criteria → Query → String)
    (hperform : ∀ {σ : Type} (ch : Channels (StateM σ)),
      perform ch c files a = report ch c files text arg) : AllOrNothing c files a := by
  cases hrequest : request files arg with
  | error e =>
    exact .nothing ⟨[], fun σ ch s => by simp only [hperform, run_report, hrequest]; rfl⟩
  | ok criteria =>
    cases hv : criteria.convert c with
    | error e =>
      exact .nothing ⟨[], fun σ ch s => by simp only [hperform, run_report, hrequest, hv]; rfl⟩
    | ok v =>
      have hands : HandsOn c files a [text criteria v.query] := by
        refine ⟨v.log, [], fun σ ch s => delivers_of_run_eq ?_⟩
        have hone : (do handOn ch.take [text criteria v.query]; ch.logAll [])
            = ch.take (text criteria v.query) := by
          simp only [handOn, Channels.logAll]
          simp
        rw [hone, hperform]
        simp only [run_report, hrequest, hv]
      exact .all hands

variable {store : Store} {page : Page}

theorem failsFirst_of_load (hrequest : request files arg = .ok criteria)
    (hload : Data.load data (files data) = .error e) : FailsFirst c files (.run arg data) e :=
  ⟨[], fun σ ch s => by simp only [perform, run_run, hrequest, hload]; rfl⟩

theorem failsFirst_of_sought (hrequest : request files arg = .ok criteria)
    (hload : Data.load data (files data) = .ok store)
    (hsought : (sought c store criteria).result = .error e) : FailsFirst c files (.run arg data) e :=
  ⟨(sought c store criteria).log, fun σ ch s => by
    simp only [perform, run_run, hrequest, hload, hsought]⟩

theorem handsOn_of_sought (hrequest : request files arg = .ok criteria)
    (hload : Data.load data (files data) = .ok store)
    (hsought : (sought c store criteria).result = .ok page) :
    HandsOn c files (.run arg data) (page.items.map itemLine) :=
  ⟨(sought c store criteria).log, [finished data page], fun σ ch s => delivers_of_run_eq (by
    simp only [perform, run_run, hrequest, hload, hsought])⟩

theorem allOrNothing (c : Config) (files : Files) (a : Action) : AllOrNothing c files a := by
  cases a with
  | compile arg pretty => exact allOrNothing_of_report (fun _ q => compiled q pretty) fun _ => rfl
  | check arg => exact allOrNothing_of_report (fun criteria _ => summary criteria) fun _ => rfl
  | run arg data =>
    cases hrequest : request files arg with
    | error e => exact .nothing ⟨[], fun σ ch s => by simp only [perform, run_run, hrequest]; rfl⟩
    | ok criteria =>
      cases hload : Data.load data (files data) with
      | error e => exact .nothing (failsFirst_of_load hrequest hload)
      | ok store =>
        cases hsought : (sought c store criteria).result with
        | error e => exact .nothing (failsFirst_of_sought hrequest hload hsought)
        | ok page => exact .all (handsOn_of_sought hrequest hload hsought)

section Record

theorem logged_recorder (lines : List Log.Line) (emitted : List Emission) :
    Run.recorder.logged lines emitted = (lines.map .line).reverse ++ emitted := by
  induction lines generalizing emitted with
  | nil => rfl
  | cons line rest ih =>
    have hfirst : Run.recorder.logged (line :: rest) emitted
        = Run.recorder.logged rest (.line line :: emitted) := rfl
    rw [hfirst, ih]
    simp

theorem takes_recorder (texts : List String) (emitted : List Emission) :
    Takes Run.recorder.take texts emitted ((texts.map .text).reverse ++ emitted) := by
  induction texts generalizing emitted with
  | nil => exact .nil emitted
  | cons text rest ih =>
    have hrest := ih (.text text :: emitted)
    rw [List.map_cons, List.reverse_cons, List.append_assoc]
    exact .cons rfl hrest

theorem FailsFirst.act (h : FailsFirst c files a e) :
    (act c files a).result = .error e ∧ (act c files a).texts = [] := by
  obtain ⟨lines, hrun⟩ := h
  rw [Command.act, Run.ofAction, hrun, logged_recorder]
  refine ⟨rfl, ?_⟩
  simp [Run.texts]

theorem HandsOn.act (h : HandsOn c files a texts) :
    (act c files a).result = .ok (String.join texts) := by
  obtain ⟨before, after, hdelivers⟩ := h
  have hrun := ((hdelivers _ Run.recorder []).whole _).mpr ⟨_, takes_recorder texts _, rfl⟩
  have htexts : (Command.act c files a).texts = texts := by
    rw [Command.act, Run.ofAction, hrun, logged_recorder, logged_recorder]
    simp [Run.texts]
  rw [Run.result, htexts, Command.act, Run.ofAction, hrun]
  rfl

/-- Where everything is taken, a command that fails has written nothing. -/
theorem texts_act_of_error (h : (act c files a).result = .error e) : (act c files a).texts = [] := by
  cases allOrNothing c files a with
  | nothing hfails => exact hfails.act.2
  | all hands =>
    rw [hands.act] at h
    cases h

end Record

end DocQuery.Command
