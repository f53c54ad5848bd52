import DocQuery.Proofs.Command.Perform
import DocQuery.Proofs.Filter.Misfit
import DocQuery.Proofs.Query.Evaluation
import DocQuery.Proofs.Query.Joins
import DocQuery.Session.Step

/-!
When criteria convert. They do unless a filter does not go with its value, and then the error is that
of the first such filter. A failed conversion is seen in nothing else: whoever asks for it, no event
is held and no line of a conversion is logged.
-/
namespace DocQuery

variable {c : Config} {criteria : Criteria} {e : Error}

namespace Criteria

theorem convert_eq_error_iff : criteria.convert c = .error e
    ↔ Meets (fun f => f.Misfit e) (fun f => ∀ e', ¬ f.Misfit e') criteria.filters := by
  rw [convert_eq_map, map_eq_error_iff, Merged.ofFilters, bind_eq_error_iff, mapM_eq_error_iff]
  simp [Filter.fragment_eq_error_iff, Filter.exists_fragment_iff, pure, Except.pure]

theorem exists_convert_eq_error_iff :
    (∃ e, criteria.convert c = .error e) ↔ ∃ f ∈ criteria.filters, ∃ e, f.Misfit e := by
  constructor
  · rintro ⟨e, h⟩
    obtain ⟨before, f, after, hfilters, -, hmisfit⟩ := convert_eq_error_iff.mp h
    exact ⟨f, by simp [hfilters], e, hmisfit⟩
  · rintro ⟨f, hf, e, hmisfit⟩
    cases h : criteria.convert c with
    | error e' => exact ⟨e', rfl⟩
    | ok v =>
      obtain ⟨m, hm, -⟩ := predicate_of_convert h
      obtain ⟨gs, hgs, -⟩ := Merged.ofFilters_eq_ok_iff.mp hm
      obtain ⟨g, -, hg⟩ := exists_mem_of_forall₂ hgs hf
      exact absurd hmisfit (Filter.exists_fragment_iff.mp ⟨g, hg⟩ e)

end Criteria

namespace Repository

variable {r : Repository} {registry : Registry} {refuses : Refusal}

theorem exists_created_of_mem_log {line : Log.Line}
    (h : line ∈ (r.ensureIndexes registry refuses).log) :
    ∃ field ∈ r.indexFields, line = r.store.created field := by
  by_cases hdone : r.store.name ∈ registry
  · rw [ensureIndexes_of_mem hdone] at h
    cases h
  · have ha := attempt_ensureIndexes hdone refuses
    generalize r.ensureIndexes registry refuses = ensured at ha h
    cases ha with
    | completes =>
      obtain ⟨field, hfield, rfl⟩ := List.mem_map.mp h
      exact ⟨field, hfield, rfl⟩
    | @stops before after f hfields _ _ =>
      obtain ⟨field, hfield, rfl⟩ := List.mem_map.mp h
      exact ⟨field, by simp [hfields, hfield], rfl⟩

/-- A search that cannot convert its criteria is over once the indexes are made. -/
theorem search_of_convert_eq_error (h : criteria.convert r.config = .error e)
    (registry : Registry) (refuses : Refusal) :
    (r.search registry refuses criteria).log = (r.ensureIndexes registry refuses).log
      ∧ (r.search registry refuses criteria).conversion = none
      ∧ ∃ e', (r.search registry refuses criteria).result = .error e' := by
  unfold search
  rw [h]
  dsimp only
  cases (r.ensureIndexes registry refuses).result with
  | error e' => exact ⟨rfl, rfl, e', rfl⟩
  | ok created => exact ⟨rfl, rfl, e, rfl⟩

end Repository

theorem Session.search_of_convert_eq_error {s : Session} {m : Member} {input : CriteriaInput}
    (hinput : input.criteria = .ok criteria)
    (h : criteria.convert m.repository.config = .error e) (name : String) (reply : Page → Reply) :
    (s.search name m input reply).1.capture = s.capture
      ∧ ∃ e', (s.search name m input reply).2 = .error e' := by
  obtain ⟨-, hconversion, e', hresult⟩ :=
    Repository.search_of_convert_eq_error h (s.registry m.registry) m.refuses
  unfold search
  rw [hinput]
  dsimp only
  rw [hconversion, hresult]
  exact ⟨rfl, e', rfl⟩

/-- The steps of a session that convert these criteria. -/
inductive Session.Converts (s : Session) (c : Config) (criteria : Criteria) : Step → Prop where
  | convert {input : CriteriaInput} (hinput : input.criteria = .ok criteria) :
    Converts s c criteria (.convert c input)
  | search {name : String} {m : Member} {input : CriteriaInput} (hm : s.member? name = some m)
    (hc : m.repository.config = c) (hinput : input.criteria = .ok criteria) :
    Converts s c criteria (.search name input)
  | searchText {name : String} {m : Member} {input : CriteriaInput} (hm : s.member? name = some m)
    (hc : m.repository.config = c) (hinput : input.criteria = .ok criteria) :
    Converts s c criteria (.searchText name input)

def Command.Action.request : Command.Action → String
  | .compile arg _ | .check arg | .run arg _ => arg

/-- What is seen of a conversion that fails. Steps of a session that ask for it fail and leave the
capture as it is, searches log no more than the indexes they make, and counts and commands fail and
log nothing. -/
structure Criteria.LeavesNoTrace (criteria : Criteria) (c : Config) : Prop where
  steps : ∀ (s : Session) (x : Step), s.Converts c criteria x →
    (s.step x).1.capture = s.capture ∧ ∃ e, (s.step x).2 = .error e
  searches : ∀ (r : Repository) (registry : Registry) (refuses : Refusal), r.config = c →
    ∀ line ∈ (r.search registry refuses criteria).log, ∃ field ∈ r.indexFields,
      line = r.store.created field
  counts : ∀ r : Repository, r.config = c → ∃ e, r.count criteria = ⟨[], .error e⟩
  commands : ∀ (files : Files) (a : Command.Action),
    Command.request files a.request = .ok criteria → ∃ e, Command.act c files a = .failed e

namespace Criteria

theorem step_of_convert_eq_error (h : criteria.convert c = .error e) {s : Session} {x : Step}
    (hx : s.Converts c criteria x) :
    (s.step x).1.capture = s.capture ∧ ∃ e', (s.step x).2 = .error e' := by
  cases hx with
  | @convert input hinput =>
    have hstep : s.step (.convert c input) = (s, .error e) := by
      simp [Session.step, Session.convert, hinput, Except.bind, h]
    rw [hstep]
    exact ⟨rfl, e, rfl⟩
  | @search name m input hm hc hinput =>
    have hstep : s.step (.search name input) = s.search name m input .page := by
      simp [Session.step, Session.withMember, hm]
    rw [hstep]
    exact Session.search_of_convert_eq_error hinput (hc ▸ h) name _
  | @searchText name m input hm hc hinput =>
    have hstep : s.step (.searchText name input)
        = s.search name m input fun p => .text p.text := by
      simp [Session.step, Session.withMember, hm]
    rw [hstep]
    exact Session.search_of_convert_eq_error hinput (hc ▸ h) name _

/-- The repository of a command has no indexes to make, so nothing is logged before its criteria are
converted. -/
theorem perform_of_convert_eq_error (h : criteria.convert c = .error e) {files : Files}
    {a : Command.Action} (ha : Command.request files a.request = .ok criteria) :
    ∃ e', ∀ {σ : Type} (ch : Command.Channels (StateM σ)) (s : σ),
      (Command.perform ch c files a).run.run s = (.error e', s) := by
  cases a with
  | compile arg pretty | check arg =>
    have hrequest : Command.request files arg = .ok criteria := ha
    exact ⟨e, fun ch s => by simp only [Command.perform, Command.run_report, hrequest, h]⟩
  | run arg data =>
    have hrequest : Command.request files arg = .ok criteria := ha
    cases hstore : Data.load data (files data) with
    | error e' =>
      exact ⟨e', fun ch s => by simp only [Command.perform, Command.run_run, hrequest, hstore]⟩
    | ok store =>
      obtain ⟨hlog, -, e', hresult⟩ := Repository.search_of_convert_eq_error
        (r := Repository.mk c [] store) h [] fun _ _ => false
      refine ⟨e', fun ch s => ?_⟩
      simp only [Command.perform, Command.run_run, hrequest, hstore, Command.sought, hresult, hlog]
      rfl

theorem act_of_convert_eq_error (h : criteria.convert c = .error e) {files : Files}
    {a : Command.Action} (ha : Command.request files a.request = .ok criteria) :
    ∃ e', Command.act c files a = .failed e' := by
  obtain ⟨e', hrun⟩ := perform_of_convert_eq_error h ha
  refine ⟨e', ?_⟩
  rw [Command.act, Command.Run.ofAction, hrun]
  rfl

theorem leavesNoTrace_of_convert_eq_error (h : criteria.convert c = .error e) :
    criteria.LeavesNoTrace c where
  steps _ _ hx := step_of_convert_eq_error h hx
  searches r registry refuses hc line hline := by
    subst hc
    obtain ⟨hlog, -, -⟩ := Repository.search_of_convert_eq_error h registry refuses
    rw [hlog] at hline
    exact Repository.exists_created_of_mem_log hline
  counts r hc := ⟨e, Repository.count_of_convert_eq_error (hc ▸ h)⟩
  commands _ _ ha := act_of_convert_eq_error h ha

/-- Criteria convert unless some filter does not go with its value, which no simple operator is a
reason for. The error is that of the first such filter, a domain error and never the one about a
missing handler; a condition is named by its token; and nothing else is seen of the conversion. One
that succeeds joins by arrays that are made of the filters, or of the conditions of one, in their
order. None of them is empty if the values are what constructors gave. -/
theorem convert_fails_iff_misfit (c : Config) (criteria : Criteria) :
    ((∃ e, criteria.convert c = .error e) ↔ ∃ f ∈ criteria.filters, ∃ e, f.Misfit e)
    ∧ (∀ f : Filter, f.operator.isComposite = false → ∀ e, ¬ f.Misfit e)
    ∧ (∀ e, criteria.convert c = .error e →
      Meets (fun f => f.Misfit e) (fun f => ∀ e', ¬ f.Misfit e') criteria.filters
      ∧ e.isDomain = true ∧ (∀ op, e ≠ .internal (.noHandler op))
      ∧ (∀ op, e = .unsupportedCondition op →
        e.message = "unsupported operator in OR condition: " ++ op.token)
      ∧ criteria.LeavesNoTrace c)
    ∧ ∀ v, criteria.convert c = .ok v →
      ∀ key items, Document.Joins v.query.predicate key items →
        Joined c criteria.filters key items
        ∧ ((∀ f ∈ criteria.filters, f.value.Built) → items ≠ []) := by
  refine ⟨exists_convert_eq_error_iff, fun f hop e => Filter.not_misfit_of_simple hop,
    fun e h => ?_, fun v h key items hj => ?_⟩
  · obtain ⟨_, f, _, -, -, hmisfit⟩ := convert_eq_error_iff.mp h
    have hdomain := hmisfit.isDomain
    refine ⟨convert_eq_error_iff.mp h, hdomain, ?_, ?_, leavesNoTrace_of_convert_eq_error h⟩
    · rintro op rfl
      cases hdomain
    · rintro op rfl
      rfl
  · obtain ⟨m, hm, hpredicate⟩ := predicate_of_convert h
    rw [hpredicate] at hj
    have hjoined := joined_of_joins hm hj
    exact ⟨hjoined, hjoined.ne_nil⟩

open FilterValue (surname surnameIs surnameAnyOf built_surnameIs
  built_surnameAnyOf)

def surnameListed : Criteria :=
  ⟨[surnameIs (.string "Berg"),
    surnameAnyOf ⟨surname, .oneOf, ⟨"Berg,Lund", .array [.string "Berg", .string "Lund"],
      .list [.string "Berg", .string "Lund"]⟩⟩], .unordered, none, none⟩

def surnameEither : Criteria :=
  ⟨[surnameIs (.string "Berg"), surnameAnyOf (surnameIs (.string "Lund"))], .unordered, none, none⟩

/-- An OR of a list does not convert, an OR of a text does, inside a conjunction. -/
theorem convert_fails_iff_misfit_surname :
    (∃ e, surnameListed.convert .default = .error e ∧ e.isDomain = true
      ∧ e.message = "unsupported operator in OR condition: IN" ∧ surnameListed.LeavesNoTrace .default)
    ∧ ∃ v items, surnameEither.convert { Config.default with merge := .conjunction } = .ok v
      ∧ Document.Joins v.query.predicate "$or" items ∧ items ≠ [] := by
  constructor
  · have he : surnameListed.convert .default = .error (.unsupportedCondition .oneOf) := rfl
    obtain ⟨-, -, hfails, -⟩ := convert_fails_iff_misfit .default surnameListed
    obtain ⟨-, hdomain, -, hmessage, htrace⟩ := hfails _ he
    exact ⟨_, he, hdomain, hmessage _ rfl, htrace⟩
  · let c : Config := { Config.default with merge := .conjunction }
    let berg : Value := .document [("surname", .document [("$eq", .string "Berg")])]
    let lund : List Value := [.document [("surname", .document [("$eq", .string "Lund")])]]
    let predicate : Document := [("$and", .array [berg, .document [("$or", .array lund)]])]
    have hv : surnameEither.convert c
        = .ok (Conversion.ofMerged ⟨predicate, [], []⟩ c surnameEither) := rfl
    have hjoins : Document.Joins predicate "$or" lund :=
      .inside (.here (by simp) (List.mem_singleton_self _))
        (List.mem_cons_of_mem _ (List.mem_singleton_self _)) (by simp) (List.mem_singleton_self _)
    have hbuilt : ∀ f ∈ surnameEither.filters, f.value.Built := by
      have hberg := built_surnameIs (show FilterValue.ofValue (.string "Berg") = _ from rfl)
      have hlund := built_surnameIs (show FilterValue.ofValue (.string "Lund") = _ from rfl)
      simpa [surnameEither] using ⟨hberg, built_surnameAnyOf hlund⟩
    obtain ⟨-, -, -, hok⟩ := convert_fails_iff_misfit c surnameEither
    obtain ⟨-, hne⟩ := hok _ hv _ _ hjoins
    exact ⟨_, lund, hv, hjoins, hne hbuilt⟩

end Criteria

end DocQuery
