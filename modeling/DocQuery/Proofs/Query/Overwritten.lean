import DocQuery.Log.Setup
import DocQuery.Proofs.Query.Kept
import DocQuery.Proofs.Store.Search
import Mathlib

/-!
What becomes of each fragment of criteria that convert. Where the last write wins, a fragment is
either the first with its key, and gives the key its place, or it comes again, and then it is
counted, reported and logged. A conjunction loses none and reports none.
-/
namespace DocQuery

namespace MergePolicy

/-- The keys that come again, if they replace what stood under them. -/
def overwritten (policy : MergePolicy) (keys : List String) : List String :=
  match policy with
  | lastWriteWins => repeats keys
  | conjunction => []

def join (policy : MergePolicy) (entries : Document) : Document :=
  match policy, entries with
  | conjunction, _ :: _ :: _ => [("$and", .array (entries.map fun e => .document [e]))]
  | _, _ => entries

theorem length_join_congr (policy : MergePolicy) {entries entries' : Document}
    (h : entries.length = entries'.length) :
    (policy.join entries).length = (policy.join entries').length := by
  cases policy with
  | lastWriteWins => exact h
  | conjunction =>
    match entries, entries', h with
    | [], [], _ => rfl
    | [_], [_], _ => rfl
    | _ :: _ :: _, _ :: _ :: _, _ => rfl

end MergePolicy

namespace Merged

variable {policy : MergePolicy} {gs : List Fragment} {m : Merged}

theorem overwritten_lastWrites (gs : List Fragment) :
    (lastWrites gs).overwritten = repeats (gs.map Fragment.key) := by
  induction gs using List.reverseRecOn with
  | nil => rfl
  | append_singleton gs g ih =>
    have hcontains : Document.contains (lastWrites gs).predicate g.key = true
        ↔ g.key ∈ gs.map Fragment.key := by
      have hkeys := keys_lastWrites gs
      rw [Document.contains, Option.isSome_iff_ne_none, ne_eq, Document.get?_eq_none_iff, not_not,
        hkeys, List.mem_eraseDups]
    rw [lastWrites_concat, List.map_append, List.map_singleton, repeats_concat, ← ih]
    by_cases h : g.key ∈ gs.map Fragment.key
    · simp [write, h, hcontains.mpr h]
    · have hnot := mt hcontains.mp h
      simp [write, h, hnot]

theorem log_write (m : Merged) (g : Fragment) (h : m.log = m.overwritten.map warning) :
    (m.write g).log = (m.write g).overwritten.map warning := by
  unfold write
  split
  · simp [h]
  · exact h

theorem log_lastWrites (gs : List Fragment) :
    (lastWrites gs).log = (lastWrites gs).overwritten.map warning := by
  induction gs using List.reverseRecOn with
  | nil => rfl
  | append_singleton gs g ih =>
    rw [lastWrites_concat]
    exact log_write _ g ih

theorem log_eq (hm : m = if gs.isEmpty then empty else ofFragments policy gs) :
    m.log = m.overwritten.map warning := by
  subst hm
  cases gs with
  | nil => rfl
  | cons g rest =>
    cases policy with
    | lastWriteWins => exact log_lastWrites (g :: rest)
    | conjunction => cases rest <;> rfl

theorem overwritten_eq (hm : m = if gs.isEmpty then empty else ofFragments policy gs) :
    m.overwritten = policy.overwritten (gs.map Fragment.key) := by
  subst hm
  cases gs with
  | nil =>
    cases policy with
    | lastWriteWins => exact overwritten_lastWrites []
    | conjunction => rfl
  | cons g rest =>
    cases policy with
    | lastWriteWins => exact overwritten_lastWrites (g :: rest)
    | conjunction => cases rest <;> rfl

/-- A merged predicate joins the entries that the policy keeps. -/
theorem predicate_eq_join (hm : m = if gs.isEmpty then empty else ofFragments policy gs) :
    m.predicate = policy.join ((policy.kept Fragment.key gs).map Fragment.entry) := by
  subst hm
  cases gs with
  | nil => cases policy <;> rfl
  | cons g rest =>
    cases policy with
    | lastWriteWins => exact predicate_lastWrites (g :: rest)
    | conjunction =>
      cases rest with
      | nil => rfl
      | cons g' rest =>
        have hdocuments : ((g :: g' :: rest).map Fragment.entry).map (fun e => Value.document [e])
            = (g :: g' :: rest).map fun g => .document g.document := by
          rw [List.map_map]
          rfl
        exact congrArg (fun items => [("$and", Value.array items)]) hdocuments.symm

end Merged

namespace Criteria

variable {c : Config} {criteria : Criteria} {v : Conversion}

theorem convert_eq_fragments (criteria : Criteria) (c : Config) : criteria.convert c
    = (criteria.filters.mapM fun f : Filter => f.fragment c.encoding).map fun gs =>
      Conversion.ofMerged (if gs.isEmpty then .empty else .ofFragments c.merge gs) c criteria := by
  rw [convert_eq_map, Merged.ofFilters]
  cases criteria.filters.mapM (Filter.fragment · c.encoding) <;> rfl

/-- What converts is made of one fragment for every filter. -/
theorem convert_eq_ok_iff : criteria.convert c = .ok v ↔ ∃ gs,
    List.Forall₂ (fun f g => f.fragment c.encoding = .ok g) criteria.filters gs
      ∧ v = Conversion.ofMerged (if gs.isEmpty then .empty else .ofFragments c.merge gs) c
          criteria := by
  rw [convert_eq_fragments, map_eq_ok_iff]
  simp only [mapM_eq_ok_iff, eq_comm (b := v)]

end Criteria

namespace Log.Setup

def enables (s : Setup) (target : String) (level : Level) : Bool :=
  (s.ruleFor target).1.admits level

def lets (s : Setup) (line : Line) : Bool := s.enables line.target line.level

theorem written_filter_lets (s : Setup) (now : Option Instant) (lines : List Line) :
    s.written now (lines.filter s.lets) = s.written now lines := by
  unfold written
  induction lines with
  | nil => rfl
  | cons line rest ih =>
    rw [List.flatMap_cons, List.filter_cons, ← ih]
    cases h : s.lets line with
    | true => rfl
    | false =>
      have hroute : s.route line = [] := by
        have hadmits : (s.ruleFor line.target).1.admits line.level = false := h
        simp [route, hadmits]
      simp [hroute]

end Log.Setup

namespace Conversion

theorem filter_warnings (s : Log.Setup) (keys : List String) :
    (keys.map Merged.warning).filter s.lets
      = if s.enables "criteria_bson::converter::predicate" .warn
        then keys.map Merged.warning else [] := by
  have hsame : ∀ line ∈ keys.map Merged.warning,
      s.lets line = s.enables "criteria_bson::converter::predicate" .warn := by
    intro line hline
    obtain ⟨key, -, rfl⟩ := List.mem_map.mp hline
    rfl
  rw [List.filter_congr hsame]
  cases s.enables "criteria_bson::converter::predicate" .warn <;> simp

variable {v : Conversion} {gs : List Fragment}

/-- The account of fragments where the last write wins. Each key stands where it first came, with
the condition that came last, and every other fragment is reported. -/
structure KeepsLast (v : Conversion) (gs : List Fragment) : Prop where
  keys : Document.keys v.query.predicate = (gs.map Fragment.key).eraseDups
  conditions : ∀ k, Document.get? v.query.predicate k
    = (lastWith? Fragment.key gs k).map Fragment.condition
  overwritten : v.event.overwritten = repeats (gs.map Fragment.key)
  counted : v.event.predicateKeys + v.event.overwritten.length = v.event.filters

structure KeepsAll (v : Conversion) (gs : List Fragment) : Prop where
  overwritten : v.event.overwritten = []
  unwarned : ∀ line ∈ v.log, line.level ≠ .warn
  none : gs = [] → v.query.predicate = []
  one : ∀ g, gs = [g] → v.query.predicate = g.document
  many : 2 ≤ gs.length →
    v.query.predicate = [("$and", .array (gs.map fun g => .document g.document))]

/-- Of the log a setup lets through one warning for each key that was overwritten, the summary, and
the event, each if its level is enabled. -/
def LogsInOrder (v : Conversion) (s : Log.Setup) : Prop :=
  v.log.filter s.lets
    = (if s.enables "criteria_bson::converter::predicate" .warn
        then v.event.overwritten.map Merged.warning else [])
      ++ (if s.enables "criteria_bson::converter" .debug then [v.summary] else [])
      ++ (if s.enables traceTarget .trace then [v.trace] else [])

theorem logsInOrder (h : v.warnings = v.event.overwritten.map Merged.warning) (s : Log.Setup) :
    v.LogsInOrder s := by
  have hsummary : s.lets v.summary = s.enables "criteria_bson::converter" .debug := rfl
  have htrace : s.lets v.trace = s.enables traceTarget .trace := rfl
  have hends : [v.summary, v.trace].filter s.lets
      = (if s.enables "criteria_bson::converter" .debug then [v.summary] else [])
        ++ (if s.enables traceTarget .trace then [v.trace] else []) := by
    rw [← hsummary, ← htrace]
    cases hs : s.lets v.summary <;> cases ht : s.lets v.trace <;> simp [hs, ht]
  rw [LogsInOrder, log, h, List.filter_append, filter_warnings, hends, List.append_assoc]

variable {c : Config} {criteria : Criteria} {m : Merged}

theorem keepsLast_ofMerged (hlength : criteria.filters.length = gs.length)
    (hm : m = if gs.isEmpty then .empty else .ofFragments .lastWriteWins gs) :
    (ofMerged m c criteria).KeepsLast gs := by
  have hlast : m = Merged.lastWrites gs := by
    rw [hm]
    cases gs <;> rfl
  have hkeys : Document.keys m.predicate = (gs.map Fragment.key).eraseDups := by
    rw [hlast, Merged.keys_lastWrites]
  have hoverwritten : m.overwritten = repeats (gs.map Fragment.key) := by
    rw [hlast, Merged.overwritten_lastWrites]
  have hcount : m.predicate.length = (gs.map Fragment.key).eraseDups.length := by
    rw [← hkeys, Document.keys, List.length_map]
  refine ⟨hkeys, fun k => ?_, hoverwritten, ?_⟩
  · have hget := Merged.get?_lastWrites gs k
    rwa [← hlast] at hget
  · change m.predicate.length + m.overwritten.length = criteria.filters.length
    rw [hcount, hoverwritten, length_eraseDups_add_repeats, List.length_map, hlength]

theorem keepsAll_ofMerged (hm : m = if gs.isEmpty then .empty else .ofFragments .conjunction gs) :
    (ofMerged m c criteria).KeepsAll gs := by
  have hoverwritten : m.overwritten = [] := Merged.overwritten_eq hm
  have hpredicate : m.predicate = MergePolicy.conjunction.join (gs.map Fragment.entry) :=
    Merged.predicate_eq_join hm
  refine ⟨hoverwritten, fun line hline => ?_, fun hnone => ?_, fun g hone => ?_, fun hmany => ?_⟩
  · have hlog : (ofMerged m c criteria).log
        = [(ofMerged m c criteria).summary, (ofMerged m c criteria).trace] := by
      have hwarnings : (ofMerged m c criteria).warnings = [] :=
        (Merged.log_eq hm).trans (by rw [hoverwritten, List.map_nil])
      rw [log, hwarnings]
      rfl
    rw [hlog] at hline
    simp only [List.mem_cons, List.not_mem_nil, or_false] at hline
    rcases hline with rfl | rfl <;> simp [summary, trace]
  · change m.predicate = []
    rw [hpredicate, hnone]
    rfl
  · change m.predicate = g.document
    rw [hpredicate, hone]
    rfl
  · change m.predicate = _
    rw [hpredicate]
    match gs, hmany with
    | g :: g' :: rest, _ => simp [MergePolicy.join, Fragment.document]

end Conversion

namespace Criteria

/-- Every fragment of criteria that convert is accounted for. Where the last write wins, the
predicate has each key once, in the order in which the keys first come, with the condition that came
last; the event names the keys that came again, in order and once each time, so that these and the
keys of the predicate are as many as the filters. In a conjunction no fragment is lost and no key is
named. The log has a warning for every key named, then the summary, then the event, of which a setup
writes those whose level it enables. Counting warns of the same keys and logs nothing else. -/
theorem fragments_accounted (c : Config) (criteria : Criteria) (v : Conversion)
    (h : criteria.convert c = .ok v) :
    ∃ gs, List.Forall₂ (fun f g => f.fragment c.encoding = .ok g) criteria.filters gs
      ∧ v.event.filters = gs.length ∧ v.event.predicateKeys = v.query.predicate.length
      ∧ (c.merge = .lastWriteWins → v.KeepsLast gs)
      ∧ (c.merge = .conjunction → v.KeepsAll gs)
      ∧ (∀ (s : Log.Setup) (now : Option Instant), v.LogsInOrder s
        ∧ s.written now v.log = s.written now (v.log.filter s.lets))
      ∧ ∀ r : Repository, r.config = c →
        (r.count criteria).log = v.event.overwritten.map Merged.warning := by
  obtain ⟨gs, hgs, rfl⟩ := convert_eq_ok_iff.mp h
  have hlength : criteria.filters.length = gs.length := hgs.length_eq
  refine ⟨gs, hgs, hlength, rfl, fun hmerge => ?_, fun hmerge => ?_, fun s now => ⟨?_, ?_⟩,
    fun r hc => ?_⟩
  · exact Conversion.keepsLast_ofMerged hlength (by rw [hmerge])
  · exact Conversion.keepsAll_ofMerged (by rw [hmerge])
  · exact Conversion.logsInOrder (Merged.log_eq rfl) s
  · exact (s.written_filter_lets now _).symm
  · subst hc
    exact (Repository.log_count_of_convert h).trans (Merged.log_eq rfl)

def genreIs (text : String) : Filter :=
  ⟨⟨"genre", by decide⟩, .equal, ⟨text, .string text, .scalar (.string text)⟩⟩

def genreAnyOf (filters : List Filter) : Filter :=
  let raw := Value.array (filters.map fun f => .document f.document)
  ⟨⟨"genres", by decide⟩, .anyOf, ⟨raw.jsonText, raw, .conditions filters⟩⟩

def orIs (text : String) : Filter :=
  ⟨⟨"$or", by decide⟩, .equal, ⟨text, .string text, .scalar (.string text)⟩⟩

def genres : Criteria :=
  ⟨[genreIs "novel", genreAnyOf [genreIs "drama", genreIs "comedy"], orIs "either", genreIs "epic",
    genreIs "satire"], .unordered, none, none⟩

/-- The OR is replaced by the field of its name, and two genres are replaced; a conjunction keeps
all five filters. -/
theorem fragments_accounted_genres :
    ∃ v w, genres.convert .default = .ok v
      ∧ genres.convert { Config.default with merge := .conjunction } = .ok w
      ∧ Document.keys v.query.predicate = ["genre", "$or"]
      ∧ v.event.overwritten = ["$or", "genre", "genre"]
      ∧ w.event.overwritten = [] ∧ ∃ parts, parts.length = 5
        ∧ w.query.predicate = [("$and", .array parts)] := by
  obtain ⟨v, hv⟩ : ∃ v, genres.convert .default = .ok v := ⟨_, rfl⟩
  obtain ⟨w, hw⟩ : ∃ w, genres.convert { Config.default with merge := .conjunction } = .ok w :=
    ⟨_, rfl⟩
  obtain ⟨gs, hgs, -, -, hlast, -⟩ := fragments_accounted .default genres v hv
  obtain ⟨gs', hgs', -, -, -, hall, -⟩ := fragments_accounted _ genres w hw
  have hkeys : gs.map Fragment.key = ["genre", "$or", "$or", "genre", "genre"] :=
    map_eq_of_forall₂ hgs fun _ _ hg => Filter.key_of_fragment hg
  have hlength : gs'.length = 5 := hgs'.length_eq.symm
  have hkeepsLast := hlast rfl
  have hkeepsAll := hall rfl
  have hpredicate := hkeepsLast.keys
  have hoverwritten := hkeepsLast.overwritten
  rw [hkeys] at hpredicate hoverwritten
  exact ⟨v, w, hv, hw, hpredicate, hoverwritten, hkeepsAll.overwritten, _,
    by rw [List.length_map, hlength], hkeepsAll.many (by omega)⟩

end Criteria

end DocQuery
