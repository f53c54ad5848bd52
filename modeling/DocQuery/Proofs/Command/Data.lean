import DocQuery.Command.Data
import DocQuery.Proofs.Bson.ExtendedJson
import Mathlib

/-!
Files of documents. Lines that are blank are passed over, every other has to be an object that gives
a document, and the first that is none decides the error.
-/
namespace DocQuery

namespace Document

variable {j : Json} {d : Document} {e : Error}

theorem ofInput_eq_ok_iff :
    ofInput j = .ok d ↔ ∃ members, j = .object members ∧ Json.Gives members d := by
  cases j with
  | object members =>
    simp only [ofInput, Json.object.injEq, exists_eq_left', ← ofJson?_eq_some_iff]
    cases ofJson? (.object members) <;> simp
  | null | bool b | number n | string s | array items => simp [ofInput]

theorem ofInput_eq_error_iff : ofInput j = .error e
    ↔ (∀ members, j ≠ .object members) ∧ e = .invalidArgument .notAnObject
      ∨ ∃ members, j = .object members ∧ (∀ d, ¬ Json.Gives members d)
        ∧ e = .invalidArgument .jsonObject := by
  cases j with
  | object members =>
    simp only [ofInput, Json.object.injEq, exists_eq_left', ← ofJson?_eq_some_iff, eq_comm (a := e)]
    cases ofJson? (.object members) <;> simp
  | null | bool b | number n | string s | array items => simp [ofInput, eq_comm]

end Document

namespace Data

variable {file line text : String} {number : Nat} {d : Document} {e : Error}

/-- The line has an object on it that gives the document. -/
def Denotes (line : String) (d : Document) : Prop :=
  ∃ members, Json.read? line = some (.object members) ∧ Json.Gives members d

/-- What is wrong with a line. Where it is no JSON the error is at its place in the file. -/
inductive Faulty (file : String) : String × Nat → Error → Prop where
  | notJson {line : String} {number : Nat} (hfilled : isBlank line = false)
    (hread : Json.read? line = none) :
    Faulty file (line, number) (.invalidArgument (.line file number))
  | notObject {line : String} {number : Nat} {j : Json} (hfilled : isBlank line = false)
    (hread : Json.read? line = some j) (hj : ∀ members, j ≠ .object members) :
    Faulty file (line, number) (.invalidArgument .notAnObject)
  | notDocument {line : String} {number : Nat} {members : List (String × Json)}
    (hfilled : isBlank line = false) (hread : Json.read? line = some (.object members))
    (hnone : ∀ d, ¬ Json.Gives members d) :
    Faulty file (line, number) (.invalidArgument .jsonObject)

/-- The lines that count. A carriage return at the end of a line is white space. -/
def filled (text : String) : List String :=
  (Text.split '\n' text).filter fun line => !isBlank line

def numbered (text : String) : List (String × Nat) := (Text.split '\n' text).zipIdx 1

def FirstFault (file text : String) (e : Error) : Prop :=
  Meets (fun l => Faulty file l e) (fun l => ∀ e', ¬ Faulty file l e') (numbered text)

theorem exists_firstFault (h : ∃ l ∈ numbered text, ∃ e, Faulty file l e) :
    ∃ e, FirstFault file text e := by
  have hor (l : String × Nat) (_ : l ∈ numbered text) :
      (∃ e, Faulty file l e) ∨ ∀ e, ¬ Faulty file l e :=
    (Classical.em _).imp_right not_exists.mp
  obtain ⟨before, l, after, hl, hpass, e, he⟩ := meets_of_exists hor h
  exact ⟨e, before, l, after, hl, hpass, he⟩

theorem document?_of_blank (h : isBlank line = true) :
    document? file number (some line) = .ok none := by
  simp [document?, h]

theorem document?_eq_some_iff (h : isBlank line = false) :
    document? file number (some line) = .ok (some d) ↔ Denotes line d := by
  cases hread : Json.read? line with
  | none => simp [document?, h, hread, Denotes]
  | some j => simp [document?, h, hread, Denotes, Document.ofInput_eq_ok_iff]

theorem document?_eq_error_iff :
    document? file number (some line) = .error e ↔ Faulty file (line, number) e := by
  cases h : isBlank line with
  | true =>
    rw [document?_of_blank h]
    refine iff_of_false nofun fun hfault => ?_
    cases hfault <;> simp_all
  | false =>
    cases hread : Json.read? line with
    | none =>
      simp only [document?, h, hread, Bool.false_eq_true, if_false, Except.error.injEq]
      constructor
      · intro he
        subst he
        exact .notJson h hread
      · intro hfault
        cases hfault <;> simp_all
    | some j =>
      simp only [document?, h, hread, Bool.false_eq_true, if_false, map_eq_error_iff,
        Document.ofInput_eq_error_iff]
      constructor
      · rintro (⟨hj, rfl⟩ | ⟨members, rfl, hnone, rfl⟩)
        · exact .notObject h hread hj
        · exact .notDocument h hread hnone
      · intro hfault
        cases hfault with
        | notJson _ hnot => simp [hread] at hnot
        | notObject _ hj hnot =>
          rw [hread] at hj
          cases hj
          exact .inl ⟨hnot, rfl⟩
        | notDocument _ hj hnone =>
          rw [hread] at hj
          cases hj
          exact .inr ⟨_, rfl, hnone, rfl⟩

theorem not_faulty_of_ok {found : Option Document}
    (h : document? file number (some line) = .ok found) (e : Error) :
    ¬ Faulty file (line, number) e := by
  rw [← document?_eq_error_iff, h]
  exact nofun

theorem Denotes.not_faulty (h : Denotes line d) (e : Error) : ¬ Faulty file (line, number) e := by
  cases hblank : isBlank line with
  | true => exact not_faulty_of_ok (document?_of_blank hblank) e
  | false => exact not_faulty_of_ok ((document?_eq_some_iff hblank).mpr h) e

theorem Denotes.unique {d' : Document} (h : Denotes line d) (h' : Denotes line d') : d = d' := by
  obtain ⟨members, hread, hd⟩ := h
  obtain ⟨members', hread', hd'⟩ := h'
  rw [hread] at hread'
  cases hread'
  rw [← Document.ofJson?_eq_some_iff] at hd hd'
  exact Option.some.inj (hd.symm.trans hd')

/-- A line is at fault, or it is blank, or it denotes a document. -/
theorem document?_cases (file line : String) (number : Nat) :
    (∃ e, document? file number (some line) = .error e ∧ Faulty file (line, number) e)
      ∨ (document? file number (some line) = .ok none ∧ isBlank line = true)
      ∨ ∃ d, document? file number (some line) = .ok (some d) ∧ isBlank line = false
        ∧ Denotes line d := by
  cases h : isBlank line with
  | true => exact .inr (.inl ⟨document?_of_blank h, rfl⟩)
  | false =>
    cases hline : document? file number (some line) with
    | error e => exact .inl ⟨e, rfl, document?_eq_error_iff.mp hline⟩
    | ok found =>
      cases found with
      | some d => exact .inr (.inr ⟨d, rfl, rfl, (document?_eq_some_iff h).mp hline⟩)
      | none =>
        exfalso
        cases hread : Json.read? line <;> simp [document?, h, hread] at hline

variable {lines : List String} {ids : IdSource} {s t : Store}

/-- The documents of the lines that are not blank are inserted, in order. -/
theorem insertLines_eq_ok_iff : insertLines file s ids number (lines.map some) = .ok t
    ↔ ∃ ds, List.Forall₂ Denotes (lines.filter fun line => !isBlank line) ds
      ∧ t = (s.insertAll ids ds).1 := by
  induction lines generalizing number s ids with
  | nil => simp [insertLines, Store.insertAll, eq_comm]
  | cons line rest ih =>
    rw [List.map_cons, insertLines]
    rcases document?_cases file line number with
      ⟨e, hline, hfault⟩ | ⟨hline, hblank⟩ | ⟨d, hline, hfilled, hd⟩
    · rw [hline]
      refine iff_of_false nofun ?_
      rintro ⟨ds, hds, -⟩
      have hfilled : isBlank line = false := by cases hfault <;> assumption
      rw [List.filter_cons_of_pos (by simp [hfilled])] at hds
      cases hds with
      | cons hd _ => exact not_faulty_of_ok ((document?_eq_some_iff hfilled).mpr hd) e hfault
    · rw [hline, List.filter_cons_of_neg (by simp [hblank])]
      exact ih
    · rw [hline, List.filter_cons_of_pos (by simp [hfilled])]
      refine ih.trans ⟨fun ⟨ds, hds, ht⟩ => ⟨d :: ds, .cons hd hds, ht⟩, ?_⟩
      rintro ⟨ds, hds, ht⟩
      cases hds with
      | @cons _ d' _ ds hd' hds =>
        have hsame : Except.ok (some d') = Except.ok (some d) :=
          ((document?_eq_some_iff hfilled).mpr hd').symm.trans hline
        cases hsame
        exact ⟨ds, hds, ht⟩

/-- Lines are read up to the first with a fault. -/
theorem insertLines_eq_error_iff : insertLines file s ids number (lines.map some) = .error e
    ↔ Meets (fun l => Faulty file l e) (fun l => ∀ e', ¬ Faulty file l e')
      (lines.zipIdx number) := by
  induction lines generalizing number s ids with
  | nil => simp [insertLines, not_meets_nil]
  | cons line rest ih =>
    rw [List.map_cons, insertLines, List.zipIdx_cons, meets_cons_iff]
    cases hline : document? file number (some line) with
    | error e' =>
      have hfault := document?_eq_error_iff.mp hline
      have hiff : Faulty file (line, number) e ↔ e' = e := by
        rw [← document?_eq_error_iff, hline, Except.error.injEq]
      have hnot : ¬ ∀ e'', ¬ Faulty file (line, number) e'' := fun hall => hall e' hfault
      simp [bind, Except.bind, hiff, hnot]
    | ok found =>
      simp only [not_faulty_of_ok hline, false_or, implies_true, not_false_eq_true, true_and]
      cases found with
      | none => exact ih
      | some d => exact ih

theorem load_eq {bytes : ByteArray} (h : String.fromUTF8? bytes = some text) :
    load file (some (.file bytes))
      = insertLines file (.empty file) .initial 1 ((Text.split '\n' text).map some) := by
  rw [load, Data.lines, h]

end Data

end DocQuery
