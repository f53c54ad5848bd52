import DocQuery.Bson.ExtendedJson
import DocQuery.Proofs.Outcome

/-!
Which value a JSON value stands for, said without the reader of extended JSON, and that the reader
finds just this. The outermost object of a document keeps its members, whatever their keys are.
-/
namespace DocQuery

/-- Objects keep their members in order, unless they are written values of a type. -/
inductive Json.StandsFor : Json → Value → Prop where
  | null : StandsFor .null .null
  | bool (b : Bool) : StandsFor (.bool b) (.boolean b)
  | narrow {n : Int} (hfits : Word.fitsInt32 n = true) :
    StandsFor (.number (.int n)) (.int32 (Int32.ofInt n))
  | wide {n : Int} (hwide : Word.fitsInt32 n = false) (hfits : Word.fitsInt64 n = true) :
    StandsFor (.number (.int n)) (.int64 (Int64.ofInt n))
  | rounded {n : Int} (hlarge : Word.fitsInt64 n = false) :
    StandsFor (.number (.int n)) (.double (Binary64.ofInt n))
  | double (x : Binary64) : StandsFor (.number (.double x)) (.double x)
  | string (s : String) : StandsFor (.string s) (.string s)
  | array {items : List Json} {vs : List Value} (hitems : List.Forall₂ StandsFor items vs) :
    StandsFor (.array items) (.array vs)
  | document {members : List (String × Json)} {entries : List (String × Value)}
    (hplain : ∀ m ∈ members, Value.isTypeName m.1 = false)
    (hkeys : entries.map Prod.fst = members.map Prod.fst)
    (hvalues : List.Forall₂ StandsFor (members.map Prod.snd) (entries.map Prod.snd)) :
    StandsFor (.object members) (.document entries)
  | typed {name : String} {body : Json} {v : Value} (hname : Value.isTypeName name = true)
    (hbody : Value.wrapped? name body = some v) : StandsFor (.object [(name, body)]) v
  | code (s : String) : StandsFor (.object [("$code", .string s), ("$scope", .null)]) (.code s)
  | scopedCode (s : String) {scope : List (String × Json)} {entries : List (String × Value)}
    (hkeys : entries.map Prod.fst = scope.map Prod.fst)
    (hvalues : List.Forall₂ StandsFor (scope.map Prod.snd) (entries.map Prod.snd)) :
    StandsFor (.object [("$code", .string s), ("$scope", .object scope)]) (.scopedCode s entries)

/-- The document has the keys of an object, in order, and what the members stand for. -/
structure Json.Gives (members : List (String × Json)) (d : Document) : Prop where
  keys : d.map Prod.fst = members.map Prod.fst
  values : List.Forall₂ StandsFor (members.map Prod.snd) (d.map Prod.snd)

inductive Json.HasScope : List (String × Json) → Prop where
  | null (s : String) : HasScope [("$code", .string s), ("$scope", .null)]
  | object (s : String) (scope : List (String × Json)) :
    HasScope [("$code", .string s), ("$scope", .object scope)]

namespace Value

variable {v : Value} {j : Json} {items : List Json} {vs : List Value}
  {members : List (String × Json)} {entries : List (String × Value)}

theorem itemsOfJson?_eq_some_iff :
    itemsOfJson? items = some vs ↔ List.Forall₂ (fun j v => ofJson? j = some v) items vs := by
  induction items generalizing vs with
  | nil => simp [itemsOfJson?, eq_comm]
  | cons j rest ih =>
    simp only [itemsOfJson?, List.forall₂_cons_left_iff, Option.bind_eq_bind,
      Option.bind_eq_some_iff, Option.pure_def, Option.some.injEq, ih]
    constructor
    · rintro ⟨v, hv, others, hrest, rfl⟩
      exact ⟨v, others, hv, hrest, rfl⟩
    · rintro ⟨v, others, hv, hrest, rfl⟩
      exact ⟨v, hv, others, hrest, rfl⟩

theorem entriesOfJson?_eq_some_iff : entriesOfJson? members = some entries
    ↔ entries.map Prod.fst = members.map Prod.fst
      ∧ List.Forall₂ (fun j v => ofJson? j = some v) (members.map Prod.snd)
        (entries.map Prod.snd) := by
  induction members generalizing entries with
  | nil => cases entries <;> simp [entriesOfJson?]
  | cons m rest ih =>
    obtain ⟨k, j⟩ := m
    simp only [entriesOfJson?, List.map_cons, Option.bind_eq_bind, Option.bind_eq_some_iff,
      Option.pure_def, Option.some.injEq, ih]
    constructor
    · rintro ⟨v, hv, others, ⟨hkeys, hvalues⟩, rfl⟩
      exact ⟨congrArg (k :: ·) hkeys, .cons hv hvalues⟩
    · rintro ⟨hkeys, hvalues⟩
      match entries, hkeys, hvalues with
      | (_, v) :: others, hkeys, .cons hv hrest =>
        obtain ⟨rfl, hothers⟩ := List.cons.inj hkeys
        exact ⟨v, hv, others, ⟨hothers, hrest⟩, rfl⟩

theorem sizeOf_lt_of_mem_values {j : Json} (h : j ∈ members.map Prod.snd) :
    sizeOf j < sizeOf members := by
  obtain ⟨⟨k, j'⟩, hm, hj⟩ := List.mem_map.mp h
  have hlt := List.sizeOf_lt_of_mem hm
  rw [Prod.mk.sizeOf_spec] at hlt
  subst hj
  dsimp only
  omega

theorem fitsInt64_of_fitsInt32 {n : Int} (h : Word.fitsInt32 n = true) :
    Word.fitsInt64 n = true := by
  simp only [Word.fitsInt32, Word.fitsInt64, Bool.and_eq_true, decide_eq_true_eq] at h ⊢
  omega

theorem ofJson?_int_eq_some_iff {n : Int} :
    ofJson? (.number (.int n)) = some v ↔ Json.StandsFor (.number (.int n)) v := by
  simp only [ofJson?, ofNumber, ofInteger, Option.some.injEq]
  constructor
  · intro h
    subst h
    split
    next hfits => exact .narrow hfits
    next hwide =>
      split
      next hfits => exact .wide (eq_false_of_ne_true hwide) hfits
      next hlarge => exact .rounded (eq_false_of_ne_true hlarge)
  · intro h
    cases h with
    | narrow hfits => simp [hfits]
    | wide hwide hfits => simp [hwide, hfits]
    | rounded hlarge =>
      have hwide : Word.fitsInt32 n ≠ true := mt fitsInt64_of_fitsInt32 (by simp [hlarge])
      simp [hwide, hlarge]

/-- Code with a scope apart, an object is a written value if a name of a type is its only key, and a
document if no key is one. -/
theorem ofJson?_object_eq_some_iff (h : ¬ Json.HasScope members) :
    ofJson? (.object members) = some v
      ↔ (∃ name body, members = [(name, body)] ∧ isTypeName name = true
          ∧ wrapped? name body = some v)
        ∨ (∀ m ∈ members, isTypeName m.1 = false)
          ∧ ∃ entries, entriesOfJson? members = some entries ∧ v = .document entries := by
  rw [ofJson?]
  case x_1 => exact fun s scope hm => h (hm ▸ .object s scope)
  case x_2 => exact fun s hm => h (hm ▸ .null s)
  constructor
  · intro hread
    split at hread
    next hnone =>
      obtain ⟨entries, hentries, hv⟩ := Option.map_eq_some_iff.mp hread
      refine .inr ⟨fun m hm => ?_, entries, hentries, hv.symm⟩
      exact eq_false_of_ne_true (List.filter_eq_nil_iff.mp hnone m hm)
    next name body rest hsome =>
      obtain ⟨hmem, hname⟩ := List.mem_filter.mp (hsome ▸ List.mem_cons_self)
      split at hread
      next hone =>
        obtain ⟨m, rfl⟩ := List.length_eq_one_iff.mp hone
        rw [List.mem_singleton] at hmem
        exact .inl ⟨name, body, by rw [hmem], hname, hread⟩
      next => cases hread
  · rintro (⟨name, body, rfl, hname, hbody⟩ | ⟨hplain, entries, hentries, rfl⟩)
    · simp [hname, hbody]
    · have hnone : (members.filter fun m => isTypeName m.1) = [] :=
        List.filter_eq_nil_iff.mpr fun m hm => by simp [hplain m hm]
      simp [hnone, hentries]

end Value

namespace Json

variable {v : Value} {members : List (String × Json)} {d : Document}

theorem standsFor_object_iff (h : ¬ HasScope members) :
    StandsFor (.object members) v
      ↔ (∃ name body, members = [(name, body)] ∧ Value.isTypeName name = true
          ∧ Value.wrapped? name body = some v)
        ∨ (∀ m ∈ members, Value.isTypeName m.1 = false)
          ∧ ∃ entries, Gives members entries ∧ v = .document entries := by
  constructor
  · intro hstands
    cases hstands with
    | document hplain hkeys hvalues => exact .inr ⟨hplain, _, ⟨hkeys, hvalues⟩, rfl⟩
    | typed hname hbody => exact .inl ⟨_, _, rfl, hname, hbody⟩
    | code s => exact absurd (.null s) h
    | scopedCode s hkeys hvalues => exact absurd (.object s _) h
  · rintro (⟨name, body, rfl, hname, hbody⟩ | ⟨hplain, entries, ⟨hkeys, hvalues⟩, rfl⟩)
    · exact .typed hname hbody
    · exact .document hplain hkeys hvalues

end Json

namespace Value

variable {members : List (String × Json)} {entries : Document}

theorem entriesOfJson?_iff_gives
    (h : ∀ j ∈ members.map Prod.snd, ∀ v, ofJson? j = some v ↔ j.StandsFor v) :
    entriesOfJson? members = some entries ↔ Json.Gives members entries := by
  rw [entriesOfJson?_eq_some_iff, forall₂_congr_of_mem h]
  exact ⟨fun ⟨hkeys, hvalues⟩ => ⟨hkeys, hvalues⟩, fun ⟨hkeys, hvalues⟩ => ⟨hkeys, hvalues⟩⟩

theorem ofJson?_scope_eq_some_iff {v : Value} (hscope : Json.HasScope members)
    (h : ∀ s scope, members = [("$code", .string s), ("$scope", .object scope)] →
      ∀ entries, entriesOfJson? scope = some entries ↔ Json.Gives scope entries) :
    ofJson? (.object members) = some v ↔ Json.StandsFor (.object members) v := by
  have hcode : isTypeName "$code" = true := by decide
  cases hscope with
  | null s =>
    simp only [ofJson?, Option.some.injEq]
    constructor
    · intro hv
      subst hv
      exact .code s
    · intro hstands
      cases hstands with
      | document hplain hkeys hvalues => simp [hcode] at hplain
      | code s => rfl
  | object s scope =>
    simp only [ofJson?, Option.map_eq_some_iff, h s scope rfl]
    constructor
    · rintro ⟨entries, ⟨hkeys, hvalues⟩, rfl⟩
      exact .scopedCode s hkeys hvalues
    · intro hstands
      cases hstands with
      | document hplain hkeys hvalues => simp [hcode] at hplain
      | scopedCode s hkeys hvalues => exact ⟨_, ⟨hkeys, hvalues⟩, rfl⟩

/-- The reader finds the value that a JSON value stands for. -/
theorem ofJson?_eq_some_iff (j : Json) (v : Value) : ofJson? j = some v ↔ j.StandsFor v := by
  cases j with
  | null | bool b | string s =>
    simp only [ofJson?, Option.some.injEq]
    constructor
    · intro h
      subst h
      constructor
    · intro h
      cases h
      rfl
  | number n =>
    cases n with
    | int n => exact ofJson?_int_eq_some_iff
    | double x =>
      simp only [ofJson?, ofNumber, Option.some.injEq]
      constructor
      · intro h
        subst h
        exact .double x
      · intro h
        cases h
        rfl
  | array items =>
    have ih (j : Json) (hj : j ∈ items) (v : Value) : ofJson? j = some v ↔ j.StandsFor v :=
      ofJson?_eq_some_iff j v
    simp only [ofJson?, Option.map_eq_some_iff, itemsOfJson?_eq_some_iff, forall₂_congr_of_mem ih]
    constructor
    · rintro ⟨vs, hitems, rfl⟩
      exact .array hitems
    · intro h
      cases h with
      | array hitems => exact ⟨_, hitems, rfl⟩
  | object members =>
    by_cases hscope : Json.HasScope members
    · refine ofJson?_scope_eq_some_iff hscope fun s scope hm entries => ?_
      have ih (j : Json) (hj : j ∈ scope.map Prod.snd) (v : Value) :
          ofJson? j = some v ↔ j.StandsFor v := ofJson?_eq_some_iff j v
      exact entriesOfJson?_iff_gives ih
    · have ih (j : Json) (hj : j ∈ members.map Prod.snd) (v : Value) :
          ofJson? j = some v ↔ j.StandsFor v := ofJson?_eq_some_iff j v
      simp only [ofJson?_object_eq_some_iff hscope, Json.standsFor_object_iff hscope,
        entriesOfJson?_iff_gives ih]
termination_by sizeOf j
decreasing_by
  · have := List.sizeOf_lt_of_mem hj
    simp only [Json.array.sizeOf_spec]
    omega
  · have := sizeOf_lt_of_mem_values hj
    have hscope : sizeOf (Json.object scope) < sizeOf members :=
      sizeOf_lt_of_mem_values (by simp [hm])
    simp only [Json.object.sizeOf_spec] at hscope ⊢
    omega
  · have := sizeOf_lt_of_mem_values hj
    simp only [Json.object.sizeOf_spec]
    omega

end Value

theorem Document.ofJson?_eq_some_iff {members : List (String × Json)} {d : Document} :
    Document.ofJson? (.object members) = some d ↔ Json.Gives members d :=
  Value.entriesOfJson?_iff_gives fun j _ v => Value.ofJson?_eq_some_iff j v

end DocQuery
