import DocQuery.Json.Printer
import DocQuery.Proofs.Store.Path
import Mathlib

/-!
JSON on lines. Written compactly a value has no line feed in it, so values that are written one on
each line are told apart again by splitting the text.
-/
namespace DocQuery

def OneLine (s : String) : Prop := '\n' ∉ s.toList

namespace OneLine

variable {s t : String} {l : List String} {cs ds : List Char}

theorem append (hs : OneLine s) (ht : OneLine t) : OneLine (s ++ t) := by
  rw [OneLine, String.toList_append, List.mem_append]
  exact not_or.mpr ⟨hs, ht⟩

theorem join (h : ∀ s ∈ l, OneLine s) : OneLine (String.join l) := by
  rw [OneLine, String.toList_join, List.mem_flatMap]
  rintro ⟨s, hs, hmem⟩
  exact h s hs hmem

theorem intercalate (hs : OneLine s) (h : ∀ t ∈ l, OneLine t) : OneLine (s.intercalate l) := by
  induction l with
  | nil => simp [OneLine]
  | cons t rest ih =>
    obtain ⟨ht, hrest⟩ := List.forall_mem_cons.mp h
    cases rest with
    | nil => simpa using ht
    | cons u rest =>
      rw [String.intercalate_cons_cons]
      exact (ht.append hs).append (ih hrest)

theorem ofList (h : '\n' ∉ cs) : OneLine (String.ofList cs) := by
  rwa [OneLine, String.toList_ofList]

theorem ofDigits (h : ∀ c ∈ cs, c.isDigit = true) : OneLine (String.ofList cs) := by
  refine ofList fun hmem => ?_
  have hfeed := h _ hmem
  simp [Char.isDigit] at hfeed

end OneLine

theorem isDigit_toDigits (n : Nat) : ∀ c ∈ Nat.toDigits 10 n, c.isDigit = true := fun _ hc =>
  Nat.isDigit_of_mem_toDigits (by decide) (by decide) hc

theorem oneLine_toString_int (n : Int) : OneLine (toString n) := by
  cases n with
  | ofNat k => exact .ofDigits (isDigit_toDigits k)
  | negSucc k =>
    have hminus : OneLine "-" := by simp [OneLine]
    exact hminus.append (.ofDigits (isDigit_toDigits (k + 1)))

theorem Text.oneLine_writeHex (width n : Nat) : OneLine (Text.writeHex width n) := by
  refine .ofList ?_
  induction width generalizing n with
  | zero => simp [hexDigits]
  | succ width ih =>
    have hdigit : ∀ d < 16, '\n' ≠ hexDigit d := by decide
    rw [hexDigits, List.mem_append, List.mem_singleton, not_or]
    exact ⟨ih (n / 16), hdigit _ (Nat.mod_lt n (by decide))⟩

namespace Layout

variable (l : Layout) {digits : List Char}

theorem oneLine_zeros (n : Nat) : OneLine (zeros n) := by
  refine .ofDigits fun c hc => ?_
  rw [List.eq_of_mem_replicate hc]
  decide

theorem oneLine_writePositional (hl : OneLine l.wholeEnding) (h : ∀ c ∈ digits, c.isDigit = true)
    (point : Int) : OneLine (l.writePositional digits point) := by
  have hfront : OneLine "0." := by simp [OneLine]
  have hpoint : OneLine "." := by simp [OneLine]
  unfold writePositional
  split
  · exact (hfront.append (oneLine_zeros _)).append (.ofDigits h)
  · dsimp only
    split
    · exact ((OneLine.ofDigits h).append (oneLine_zeros _)).append hl
    · have htake : OneLine (String.ofList (digits.take point.toNat)) :=
        .ofDigits fun c hc => h c (List.mem_of_mem_take hc)
      have hdrop : OneLine (String.ofList (digits.drop point.toNat)) :=
        .ofDigits fun c hc => h c (List.mem_of_mem_drop hc)
      exact (htake.append hpoint).append hdrop

theorem oneLine_writeExponent (n : Int) : OneLine (writeExponent n) := by
  have hminus : OneLine "e" := by simp [OneLine]
  have hplus : OneLine "e+" := by simp [OneLine]
  unfold writeExponent
  split
  · exact hminus.append (oneLine_toString_int n)
  · exact hplus.append (oneLine_toString_int n)

theorem oneLine_writeScientific (h : ∀ c ∈ digits, c.isDigit = true) (point : Int) :
    OneLine (writeScientific digits point) := by
  have hpoint : OneLine "." := by simp [OneLine]
  cases digits with
  | nil => simp [writeScientific, OneLine]
  | cons d rest =>
    obtain ⟨hd, hrest⟩ := List.forall_mem_cons.mp h
    have hfirst : OneLine (String.ofList [d]) := .ofDigits (by simpa using hd)
    cases rest with
    | nil => exact hfirst.append (oneLine_writeExponent _)
    | cons d' rest =>
      exact ((hfirst.append hpoint).append (.ofDigits hrest)).append (oneLine_writeExponent _)

theorem oneLine_write (hl : OneLine l.wholeEnding) (x : Binary64) : OneLine (l.write x) := by
  have hzero : OneLine "0" := by simp [OneLine]
  have hsign : OneLine (if x.negative then "-" else "") := by split <;> simp [OneLine]
  refine hsign.append ?_
  unfold writeMagnitude
  split
  · exact hzero.append hl
  · dsimp only
    split
    · exact l.oneLine_writePositional hl (isDigit_toDigits _) _
    · exact oneLine_writeScientific (isDigit_toDigits _) _

end Layout

namespace Json

theorem oneLine_escape (c : Char) : OneLine (escape c) := by
  by_cases hfeed : c = '\n'
  · subst hfeed
    simp [escape, OneLine]
  · have hself : OneLine c.toString := by simpa [OneLine] using Ne.symm hfeed
    have hcode : OneLine ("\\u" ++ Text.writeHex 4 c.toNat) :=
      OneLine.append (by simp [OneLine]) (Text.oneLine_writeHex 4 _)
    unfold escape
    repeat' split
    all_goals first
      | with_reducible exact hself
      | with_reducible exact hcode
      | simp [OneLine]

theorem oneLine_quote (s : String) : OneLine (quote s) := by
  have hmark : OneLine "\"" := by simp [OneLine]
  refine (hmark.append (.join fun t ht => ?_)).append hmark
  obtain ⟨c, -, rfl⟩ := List.mem_map.mp ht
  exact oneLine_escape c

theorem Number.oneLine_text (n : Number) : OneLine n.text := by
  cases n with
  | int n => exact oneLine_toString_int n
  | double x =>
    unfold Number.text
    dsimp only
    split
    · exact Layout.oneLine_write _ (by simp [OneLine, Layout.json]) x
    · simp [OneLine]

mutual
theorem oneLine_compact (j : Json) : OneLine j.compact := by
  have hcomma : OneLine "," := by simp [OneLine]
  cases j with
  | null => simp [compact, OneLine]
  | bool b => cases b <;> simp [compact, OneLine]
  | number n => exact n.oneLine_text
  | string s => exact oneLine_quote s
  | array items =>
    have hopen : OneLine "[" := by simp [OneLine]
    have hclose : OneLine "]" := by simp [OneLine]
    rw [compact]
    exact (hopen.append (hcomma.intercalate (oneLine_compactItems items))).append hclose
  | object members =>
    have hopen : OneLine "\x7b" := by simp [OneLine]
    have hclose : OneLine "\x7d" := by simp [OneLine]
    rw [compact]
    exact (hopen.append (hcomma.intercalate (oneLine_compactMembers members))).append hclose

theorem oneLine_compactItems (items : List Json) : ∀ s ∈ compactItems items, OneLine s := by
  cases items with
  | nil => simp [compactItems]
  | cons v rest =>
    rw [compactItems, List.forall_mem_cons]
    exact ⟨oneLine_compact v, oneLine_compactItems rest⟩

theorem oneLine_compactMembers (members : List (String × Json)) :
    ∀ s ∈ compactMembers members, OneLine s := by
  cases members with
  | nil => simp [compactMembers]
  | cons m rest =>
    obtain ⟨k, v⟩ := m
    have hcolon : OneLine ":" := by simp [OneLine]
    rw [compactMembers, List.forall_mem_cons]
    exact ⟨((oneLine_quote k).append hcolon).append (oneLine_compact v),
      oneLine_compactMembers rest⟩
end

end Json

namespace Text

theorem splitList_append {separator : Char} {cs : List Char} (h : separator ∉ cs)
    (rest : List Char) :
    splitList separator (cs ++ separator :: rest) = cs :: splitList separator rest := by
  induction cs with
  | nil => simp [splitList]
  | cons c cs ih =>
    rw [List.mem_cons, not_or] at h
    rw [List.cons_append, splitList, if_neg (Ne.symm h.1), ih h.2]

/-- Lines that are each ended by a line feed come back, with nothing after the last. -/
theorem split_lines {l : List String} (h : ∀ s ∈ l, OneLine s) :
    split '\n' (String.join (l.map fun s => s ++ "\n")) = l ++ [""] := by
  induction l with
  | nil => rfl
  | cons s rest ih =>
    obtain ⟨hs, hrest⟩ := List.forall_mem_cons.mp h
    have hchars : (String.join ((s :: rest).map fun s => s ++ "\n")).toList
        = s.toList ++ '\n' :: (String.join (rest.map fun s => s ++ "\n")).toList := by
      simp [String.toList_join]
    rw [split, hchars, splitList_append hs, List.map_cons, String.ofList_toList]
    exact congrArg (s :: ·) (ih hrest)

end Text

end DocQuery
