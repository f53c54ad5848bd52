import DocQuery.Config.Sources
import DocQuery.Proofs.Outcome
import Mathlib

/-!
Which layer of a configuration has the say. One file at most is read; the environment and the other
options apply to what it says, setting by setting, and each layer is checked even where a later one
takes its place.
-/
namespace DocQuery

inductive MergePolicy.HasName : MergePolicy → String → Prop where
  | lastWriteWins : HasName .lastWriteWins "last_write_wins"
  | conjunction : HasName .conjunction "conjunction"
  | and : HasName .conjunction "and"

theorem MergePolicy.hasName_of_ofWord? {text : String} {p : MergePolicy}
    (h : ofWord? text = some p) : p.HasName text := by
  have hword := List.find?_some (p := fun p : MergePolicy => p.word == text) h
  rw [← eq_of_beq hword]
  cases p <;> constructor

theorem toLower_eq_hyphen_iff {c : Char} : c.toLower = '-' ↔ c = '-' := by
  constructor
  · intro h
    have halpha : c.isAlpha = false := by
      rw [← Char.isAlpha_toLower_eq_isAlpha, h]
      rfl
    have hupper : c.isUpper = false := by
      rw [Char.isAlpha, Bool.or_eq_false_iff] at halpha
      exact halpha.1
    rwa [Char.toLower_eq_of_not_isUpper (by simp [hupper])] at h
  · intro h
    subst h
    rfl

/-- A policy is read from its names in any case, with hyphens for underscores or without. -/
theorem MergePolicy.ofText_eq_ok_iff {text : String} {p : MergePolicy} : ofText text = .ok p
    ↔ ∃ name, p.HasName name
      ∧ text.toList.map (fun c => if c = '-' then '_' else c.toLower) = name.toList := by
  have hword : (text.toLower.map fun c => if c = '-' then '_' else c).toList
      = text.toList.map fun c => if c = '-' then '_' else c.toLower := by
    simp [String.toLower, String.toList_map, toLower_eq_hyphen_iff, Function.comp_def]
  simp only [← hword, String.toList_inj, ofText]
  generalize (text.toLower.map fun c => if c = '-' then '_' else c) = word
  constructor
  · intro h
    split at h
    next found hfound =>
      cases h
      split at hfound
      next hand =>
        cases hfound
        exact ⟨"and", .and, hand⟩
      next =>
        exact ⟨word, hasName_of_ofWord? hfound, rfl⟩
    next => cases h
  · rintro ⟨name, hname, rfl⟩
    cases hname <;> rfl

inductive ScalarEncoding.HasName : ScalarEncoding → String → Prop where
  | canonical : HasName .canonical "canonical"
  | typed : HasName .typed "typed"

theorem ScalarEncoding.hasName_of_ofWord? {text : String} {e : ScalarEncoding}
    (h : ofWord? text = some e) : e.HasName text := by
  have hword := List.find?_some (p := fun e : ScalarEncoding => e.word == text) h
  rw [← eq_of_beq hword]
  cases e <;> constructor

theorem ScalarEncoding.ofText_eq_ok_iff {text : String} {e : ScalarEncoding} : ofText text = .ok e
    ↔ ∃ name, e.HasName name ∧ text.toList.map Char.toLower = name.toList := by
  have hword : text.toLower.toList = text.toList.map Char.toLower := by
    rw [String.toLower, String.toList_map]
  simp only [← hword, String.toList_inj, ofText]
  generalize text.toLower = word
  constructor
  · intro h
    split at h
    next found hfound =>
      cases h
      exact ⟨word, hasName_of_ofWord? hfound, rfl⟩
    next => cases h
  · rintro ⟨name, hname, rfl⟩
    cases hname <;> rfl

namespace Config

open Sources (loadWith)

variable {read : String → Option Config} {s : Sources} {env : Environment} {files : Files}
  {path : String} {c base : Config}

def HasEmptyName (c : Config) : Prop := c.identifier = "" ∨ c.nativeIdentifier = ""

theorem checked_of_empty (h : c.HasEmptyName) : c.checked = .error (.config .emptyIdentifier) := by
  unfold checked
  rw [if_pos (by simpa [HasEmptyName] using h)]

theorem checked_of_not_empty (h : ¬ c.HasEmptyName) : c.checked = .ok c := by
  unfold checked
  rw [if_neg (by simpa [HasEmptyName] using h)]

theorem checked_eq_ok_iff {c' : Config} : c.checked = .ok c' ↔ ¬ c.HasEmptyName ∧ c = c' := by
  by_cases h : c.HasEmptyName
  · simp [checked_of_empty h, h]
  · simp [checked_of_not_empty h, h]

namespace Sources

inductive Names (s : Sources) (env : Environment) : String → Prop where
  | option {path : String} (h : s.file = some path) : Names s env path
  | variable {path : String} (hoption : s.file = none) (h : env "CRITERIA_CONFIG" = some path) :
    Names s env path

/-- The file that is read. Where none is named it is the one in the working directory if there is
one, and else none. -/
inductive Chosen (s : Sources) (env : Environment) (files : Files) : Option String → Prop where
  | named {path : String} (h : s.Names env path) : Chosen s env files (some path)
  | found {directory : String} (hnone : ∀ path, ¬ s.Names env path)
    (hdirectory : s.directory = some directory)
    (hexists : (files (Files.path directory "criteria.toml")).isSome = true) :
    Chosen s env files (some (Files.path directory "criteria.toml"))
  | defaults (hnone : ∀ path, ¬ s.Names env path)
    (h : ∀ directory, s.directory = some directory →
      files (Files.path directory "criteria.toml") = none) : Chosen s env files none

theorem named_eq_some_iff : s.named env = some path ↔ s.Names env path := by
  constructor
  · intro h
    cases hfile : s.file with
    | some other =>
      rw [named, hfile] at h
      cases h
      exact .option hfile
    | none =>
      rw [named, hfile] at h
      exact .variable hfile h
  · rintro (h | ⟨hoption, h⟩)
    · rw [named, h]
      rfl
    · rw [named, hoption]
      exact h

theorem named_eq_none_iff : s.named env = none ↔ ∀ path, ¬ s.Names env path := by
  simp only [← named_eq_some_iff, Option.eq_none_iff_forall_ne_some, ne_eq]

def ofChosen (read : String → Option Config) (files : Files) : Option String → Except Error Config
  | none => .ok default
  | some path =>
    match files path with
    | some e => ofEntry read e
    | none => .error (.config (.fileNotFound path))

theorem exists_chosen (s : Sources) (env : Environment) (files : Files) :
    ∃ chosen, s.Chosen env files chosen := by
  cases hnamed : s.named env with
  | some path => exact ⟨_, .named (named_eq_some_iff.mp hnamed)⟩
  | none =>
    have hnone := named_eq_none_iff.mp hnamed
    by_cases h : ∃ directory, s.directory = some directory
        ∧ (files (Files.path directory "criteria.toml")).isSome = true
    · obtain ⟨directory, hdirectory, hexists⟩ := h
      exact ⟨_, .found hnone hdirectory hexists⟩
    · refine ⟨_, .defaults hnone fun directory hdirectory => ?_⟩
      rw [← Option.not_isSome_iff_eq_none]
      exact fun hexists => h ⟨directory, hdirectory, hexists⟩

theorem Chosen.eq {chosen : Option String} (h : s.Chosen env files chosen) :
    chosen = (s.named env).or (s.local.filter fun path => (files path).isSome) := by
  cases h with
  | named h => rw [named_eq_some_iff.mpr h, Option.some_or]
  | found hnone hdirectory hexists =>
    rw [named_eq_none_iff.mpr hnone, Option.none_or, Sources.local, hdirectory]
    simp [fileName, Option.filter_some, hexists]
  | defaults hnone h =>
    rw [named_eq_none_iff.mpr hnone, Option.none_or, Sources.local]
    cases hdirectory : s.directory with
    | none => rfl
    | some directory => simp [fileName, Option.filter_some, h directory hdirectory]

theorem Chosen.unique {chosen other : Option String} (h : s.Chosen env files chosen)
    (h' : s.Chosen env files other) : other = chosen := h'.eq.trans h.eq.symm

theorem base_of_chosen {chosen : Option String} (h : s.Chosen env files chosen) :
    s.base read env files = ofChosen read files chosen := by
  cases h with
  | named h =>
    rw [Sources.base, named_eq_some_iff.mpr h]
    rfl
  | found hnone hdirectory hexists =>
    obtain ⟨e, he⟩ := Option.isSome_iff_exists.mp hexists
    rw [Sources.base, named_eq_none_iff.mpr hnone, Sources.local, hdirectory]
    simp [fileName, ofChosen, he]
  | defaults hnone h =>
    rw [Sources.base, named_eq_none_iff.mpr hnone, Sources.local]
    cases hdirectory : s.directory with
    | none => rfl
    | some directory => simp [fileName, ofChosen, h directory hdirectory]

def said? (read : String → Option Config) (files : Files) (path : String) : Option Config :=
  ((files path).bind Entry.text?).bind read

inductive Says (read : String → Option Config) (s : Sources) (env : Environment) (files : Files) :
    Config → Prop where
  | file {path : String} {c : Config} (h : s.Chosen env files (some path))
    (hread : said? read files path = some c) : Says read s env files c
  | defaults (h : s.Chosen env files none) : Says read s env files default

/-- The chosen file is of no use: it is named and not there, it cannot be read, or it leaves an
identifier without a name. -/
inductive Useless (read : String → Option Config) (s : Sources) (env : Environment)
    (files : Files) : Prop where
  | missing {path : String} (h : s.Names env path) (hfile : files path = none)
  | unreadable {path : String} (h : s.Chosen env files (some path))
    (hfile : (files path).isSome = true) (hread : said? read files path = none)
  | empty {path : String} {c : Config} (h : s.Chosen env files (some path))
    (hread : said? read files path = some c) (hempty : c.HasEmptyName)

theorem says_iff_of_none (h : s.Chosen env files none) : s.Says read env files c ↔ c = default := by
  constructor
  · rintro (⟨h', -⟩ | -)
    · cases h.unique h'
    · rfl
  · rintro rfl
    exact .defaults h

theorem says_iff_of_some (h : s.Chosen env files (some path)) :
    s.Says read env files c ↔ said? read files path = some c := by
  constructor
  · rintro (⟨h', hread⟩ | h')
    · cases h.unique h'
      exact hread
    · cases h.unique h'
  · exact .file h

theorem Says.unique (h : s.Says read env files c) (h' : s.Says read env files base) : base = c := by
  obtain ⟨chosen, hchosen⟩ := s.exists_chosen env files
  cases chosen with
  | none =>
    rw [says_iff_of_none hchosen] at h h'
    exact h'.trans h.symm
  | some path =>
    rw [says_iff_of_some hchosen] at h h'
    exact Option.some.inj (h'.symm.trans h)

theorem not_hasEmptyName_default : ¬ default.HasEmptyName := by
  simp [HasEmptyName, default]

theorem ofChosen_some_eq_ok_iff : ofChosen read files (some path) = .ok c
    ↔ said? read files path = some c ∧ ¬ c.HasEmptyName := by
  unfold said?
  cases hfile : files path with
  | none => simp [ofChosen, hfile]
  | some e =>
    simp only [ofChosen, hfile, ofEntry, Option.bind_some]
    cases e.text?.bind read with
    | none => simp
    | some found =>
      simp only [checked_eq_ok_iff, Option.some.injEq]
      constructor
      · rintro ⟨hnames, rfl⟩
        exact ⟨rfl, hnames⟩
      · rintro ⟨rfl, hnames⟩
        exact ⟨hnames, rfl⟩

theorem base_eq_ok_iff :
    s.base read env files = .ok c ↔ s.Says read env files c ∧ ¬ c.HasEmptyName := by
  obtain ⟨chosen, h⟩ := s.exists_chosen env files
  rw [base_of_chosen h]
  cases chosen with
  | none =>
    rw [says_iff_of_none h, ofChosen, Except.ok.injEq, eq_comm]
    constructor
    · rintro rfl
      exact ⟨rfl, not_hasEmptyName_default⟩
    · exact And.left
  | some path => rw [says_iff_of_some h, ofChosen_some_eq_ok_iff]

theorem base_fails_iff : (∃ e, s.base read env files = .error e) ↔ s.Useless read env files := by
  obtain ⟨chosen, h⟩ := s.exists_chosen env files
  simp only [exists_error_iff, ne_eq, base_eq_ok_iff, not_and_not_right]
  constructor
  · intro hfails
    cases chosen with
    | none => exact absurd (hfails default (.defaults h)) not_hasEmptyName_default
    | some path =>
      cases hread : said? read files path with
      | some c => exact .empty h hread (hfails c (.file h hread))
      | none =>
        cases hfile : files path with
        | some e => exact .unreadable h (by simp [hfile]) hread
        | none =>
          cases h with
          | named hnamed => exact .missing hnamed hfile
          | found _ _ hexists => simp [hfile] at hexists
  · rintro (⟨hnamed, hfile⟩ | ⟨h', -, hread⟩ | ⟨h', hread, hempty⟩) c hsaid
    · rw [says_iff_of_some (.named hnamed), said?, hfile] at hsaid
      cases hsaid
    · rw [says_iff_of_some h', hread] at hsaid
      cases hsaid
    · rw [says_iff_of_some h', hread] at hsaid
      cases hsaid
      exact hempty

end Sources

section Layers

variable {α : Type} {ofText : String → Except Error α} {setting a : α} {value : Option String}

theorem override_eq_ok_iff : override ofText setting value = .ok a
    ↔ (value = none ∧ setting = a) ∨ ∃ text, value = some text ∧ ofText text = .ok a := by
  cases value <;> simp [override]

theorem override_fails_iff : (∃ e, override ofText setting value = .error e)
    ↔ ∃ text, value = some text ∧ ∀ a, ofText text ≠ .ok a := by
  rw [exists_error_iff]
  cases value <;> simp [override]

/-- A setting in three layers: the option, the variable, and what was set before. -/
inductive Settled (ofText : String → Except Error α) (option : Option α) (value : Option String)
    (setting : α) : α → Prop where
  | option {a : α} (h : option = some a) : Settled ofText option value setting a
  | variable {text : String} {a : α} (hoption : option = none) (h : value = some text)
    (hread : ofText text = .ok a) : Settled ofText option value setting a
  | setting (hoption : option = none) (h : value = none) : Settled ofText option value setting setting

theorem settled_getD (h : override ofText setting value = .ok a) (option : Option α) :
    Settled ofText option value setting (option.getD a) := by
  cases option with
  | some b => exact .option rfl
  | none =>
    rcases override_eq_ok_iff.mp h with ⟨hvalue, rfl⟩ | ⟨text, hvalue, hread⟩
    · exact .setting rfl hvalue
    · exact .variable rfl hvalue hread

theorem Settled.unique {option : Option α} {b : α} (h : Settled ofText option value setting a)
    (h' : Settled ofText option value setting b) : a = b := by
  rcases h with h | ⟨hoption, h, hread⟩ | ⟨hoption, h⟩ <;>
    rcases h' with h' | ⟨hoption', h', hread'⟩ | ⟨hoption', h'⟩ <;> simp_all

def renamed (env : Environment) (c : Config) : Config :=
  { c with
    identifier := (env "CRITERIA_IDENTIFIER_FIELD").getD c.identifier
    nativeIdentifier := (env "CRITERIA_NATIVE_IDENTIFIER_FIELD").getD c.nativeIdentifier }

theorem withOverrides_eq_ok_iff {c' : Config} : c.withOverrides env = .ok c' ↔
    ∃ merge, override MergePolicy.ofText c.merge (env "CRITERIA_MERGE_POLICY") = .ok merge
      ∧ ∃ encoding,
        override ScalarEncoding.ofText c.encoding (env "CRITERIA_SCALAR_ENCODING") = .ok encoding
        ∧ ¬ (c.renamed env).HasEmptyName ∧ { c.renamed env with merge, encoding } = c' := by
  unfold withOverrides
  simp only [bind_eq_ok_iff, checked_eq_ok_iff]
  rfl

theorem withOverrides_fails_iff : (∃ e, c.withOverrides env = .error e) ↔
    (∃ e, override MergePolicy.ofText c.merge (env "CRITERIA_MERGE_POLICY") = .error e)
      ∨ (∃ e, override ScalarEncoding.ofText c.encoding (env "CRITERIA_SCALAR_ENCODING") = .error e)
      ∨ (c.renamed env).HasEmptyName := by
  rw [exists_error_iff]
  simp only [ne_eq, withOverrides_eq_ok_iff]
  cases override MergePolicy.ofText c.merge (env "CRITERIA_MERGE_POLICY") with
  | error e => simp
  | ok merge =>
    cases override ScalarEncoding.ofText c.encoding (env "CRITERIA_SCALAR_ENCODING") with
    | error e => simp
    | ok encoding => simp

end Layers

namespace Sources

structure Layered (s : Sources) (env : Environment) (base c : Config) : Prop where
  identifier : c.identifier = (env "CRITERIA_IDENTIFIER_FIELD").getD base.identifier
  nativeIdentifier :
    c.nativeIdentifier = (env "CRITERIA_NATIVE_IDENTIFIER_FIELD").getD base.nativeIdentifier
  merge : Settled MergePolicy.ofText s.merge (env "CRITERIA_MERGE_POLICY") base.merge c.merge
  encoding : Settled ScalarEncoding.ofText s.encoding (env "CRITERIA_SCALAR_ENCODING") base.encoding
    c.encoding
  defaultSort : c.defaultSort = base.defaultSort
  names : ¬ c.HasEmptyName

/-- Why there is no configuration. The variables are read also where an option takes their place,
and what the file says is checked also where the environment takes its place. -/
inductive Fails (read : String → Option Config) (s : Sources) (env : Environment) (files : Files) :
    Prop where
  | file (h : s.Useless read env files)
  | merge {text : String} (h : env "CRITERIA_MERGE_POLICY" = some text)
    (hread : ∀ p, MergePolicy.ofText text ≠ .ok p)
  | encoding {text : String} (h : env "CRITERIA_SCALAR_ENCODING" = some text)
    (hread : ∀ p, ScalarEncoding.ofText text ≠ .ok p)
  | empty {c : Config} (h : s.Says read env files c) (hempty : (c.renamed env).HasEmptyName)

theorem loadWith_eq_ok_iff : s.loadWith read env files = .ok c ↔
    ∃ base, s.base read env files = .ok base ∧ ∃ d, base.withOverrides env = .ok d
      ∧ { d with merge := s.merge.getD d.merge, encoding := s.encoding.getD d.encoding } = c := by
  simp only [loadWith, bind_eq_ok_iff, pure, Except.pure, Except.ok.injEq]

theorem layered_of_loadWith (h : s.loadWith read env files = .ok c) :
    ∃ base, s.Says read env files base ∧ s.Layered env base c := by
  obtain ⟨base, hbase, d, hd, rfl⟩ := loadWith_eq_ok_iff.mp h
  obtain ⟨merge, hmerge, encoding, hencoding, hnames, rfl⟩ := withOverrides_eq_ok_iff.mp hd
  exact ⟨base, (base_eq_ok_iff.mp hbase).1, rfl, rfl, settled_getD hmerge _,
    settled_getD hencoding _, rfl, hnames⟩

theorem loadWith_fails_iff :
    (∃ e, s.loadWith read env files = .error e) ↔ s.Fails read env files := by
  constructor
  · rintro ⟨e, h⟩
    rcases bind_eq_error_iff.mp h with hbase | ⟨base, hbase, hrest⟩
    · exact .file (base_fails_iff.mp ⟨e, hbase⟩)
    · have hoverrides : base.withOverrides env = .error e := by
        rcases bind_eq_error_iff.mp hrest with hoverrides | ⟨d, -, hreturn⟩
        · exact hoverrides
        · cases hreturn
      rcases withOverrides_fails_iff.mp ⟨e, hoverrides⟩ with hmerge | hencoding | hempty
      · obtain ⟨text, htext, hread⟩ := override_fails_iff.mp hmerge
        exact .merge htext hread
      · obtain ⟨text, htext, hread⟩ := override_fails_iff.mp hencoding
        exact .encoding htext hread
      · exact .empty (base_eq_ok_iff.mp hbase).1 hempty
  · rw [exists_error_iff]
    intro hfails c h
    obtain ⟨base, hbase, d, hd, -⟩ := loadWith_eq_ok_iff.mp h
    obtain ⟨merge, hmerge, encoding, hencoding, hnames, -⟩ := withOverrides_eq_ok_iff.mp hd
    cases hfails with
    | file huseless =>
      obtain ⟨e, he⟩ := base_fails_iff.mpr huseless
      rw [he] at hbase
      cases hbase
    | merge htext hread =>
      obtain ⟨e, he⟩ := override_fails_iff.mpr ⟨_, htext, hread⟩
      rw [he] at hmerge
      cases hmerge
    | encoding htext hread =>
      obtain ⟨e, he⟩ := override_fails_iff.mpr ⟨_, htext, hread⟩
      rw [he] at hencoding
      cases hencoding
    | empty hsaid hempty =>
      rw [hsaid.unique (base_eq_ok_iff.mp hbase).1] at hnames
      exact hnames hempty

theorem loadWith_of_names (h : s.Names env path) {files' : Files} (hfile : files' path = files path) :
    s.loadWith read env files' = s.loadWith read env files := by
  rw [loadWith, loadWith, base_of_chosen (.named h), base_of_chosen (.named h), ofChosen, ofChosen,
    hfile]

/-- How a configuration comes about, for any reader of texts. One file is chosen, or the defaults
are; a file that is named is the only one looked at. Loading fails for the reasons there are for it
and no others, and else every setting comes from the first layer that has it. -/
theorem loaded_by_precedence (read : String → Option Config) (s : Sources) (env : Environment)
    (files : Files) :
    (∃! chosen, s.Chosen env files chosen)
      ∧ (∀ path, s.Names env path → ∀ files' : Files, files' path = files path →
        s.loadWith read env files' = s.loadWith read env files)
      ∧ ((∃ e, s.loadWith read env files = .error e) ↔ s.Fails read env files)
      ∧ ∀ c, s.loadWith read env files = .ok c →
        ∃ base, s.Says read env files base ∧ s.Layered env base c := by
  refine ⟨?_, fun path h files' hfile => loadWith_of_names h hfile, loadWith_fails_iff,
    fun c => layered_of_loadWith⟩
  obtain ⟨chosen, h⟩ := s.exists_chosen env files
  exact ⟨chosen, h, fun other h' => h.unique h'⟩

def teamSources : Sources := ⟨none, some .conjunction, none, some "home"⟩

def teamEnvironment (policy : String) : Environment := fun name =>
  if name = "CRITERIA_CONFIG" then some "team.toml"
  else if name = "CRITERIA_MERGE_POLICY" then some policy
  else if name = "CRITERIA_SCALAR_ENCODING" then some "Typed"
  else none

def teamFiles : Files := fun path => if path = "team.toml" then some (.file ByteArray.empty) else none

/-- The option does not hide that the variable cannot be read; if it can, the option counts. The
encoding has no option, so that its variable counts. -/
theorem loaded_by_precedence_team :
    (∃ e, teamSources.loadWith (fun _ => some default) (teamEnvironment "newest") teamFiles
        = .error e)
      ∧ ∃ c base, teamSources.loadWith (fun _ => some default) (teamEnvironment "Last-Write-Wins")
          teamFiles = .ok c
        ∧ teamSources.Says (fun _ => some default) (teamEnvironment "Last-Write-Wins") teamFiles base
        ∧ teamSources.Layered (teamEnvironment "Last-Write-Wins") base c
        ∧ c.merge = .conjunction ∧ c.encoding = .typed := by
  obtain ⟨-, -, hfails, -⟩ := loaded_by_precedence (fun _ => some default) teamSources
    (teamEnvironment "newest") teamFiles
  obtain ⟨-, -, -, hlayers⟩ := loaded_by_precedence (fun _ => some default) teamSources
    (teamEnvironment "Last-Write-Wins") teamFiles
  have hunknown (p : MergePolicy) : MergePolicy.ofText "newest" ≠ .ok p := by
    rw [ne_eq, MergePolicy.ofText_eq_ok_iff]
    rintro ⟨name, hname, h⟩
    cases hname <;> revert h <;> decide
  have htyped : ScalarEncoding.ofText "Typed" = .ok .typed :=
    ScalarEncoding.ofText_eq_ok_iff.mpr ⟨_, .typed, by decide⟩
  obtain ⟨c, hloaded⟩ : ∃ c, teamSources.loadWith (fun _ => some default)
      (teamEnvironment "Last-Write-Wins") teamFiles = .ok c :=
    ⟨{ default with merge := .conjunction, encoding := .typed }, by decide +kernel⟩
  obtain ⟨base, hsaid, hlayered⟩ := hlayers _ hloaded
  have hmerge : c.merge = .conjunction := hlayered.merge.unique (.option rfl)
  have hencoding : c.encoding = .typed := hlayered.encoding.unique (.variable rfl rfl htyped)
  exact ⟨hfails.mpr (.merge rfl hunknown), c, base, hloaded, hsaid, hlayered, hmerge, hencoding⟩

end Sources

end Config

end DocQuery
