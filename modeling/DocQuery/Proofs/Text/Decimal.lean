import DocQuery.Text.Digits
import Mathlib.Data.List.Induction
import Mathlib.Data.Nat.Digits.Defs

/-!
Decimal texts of integers. What an integer is written as reads back, and all other texts that read as
this integer are longer.
-/
namespace DocQuery.Text

variable {cs : List Char} {n : Nat}

theorem mapM_digitValue?_of_isDigit (h : ∀ c ∈ cs, c.isDigit = true) :
    cs.mapM digitValue? = some (cs.map fun c => c.toNat - '0'.toNat) := by
  induction cs with
  | nil => rfl
  | cons c cs ih =>
    obtain ⟨hc, hcs⟩ := List.forall_mem_cons.mp h
    have hvalue : digitValue? c = some (c.toNat - '0'.toNat) := if_pos hc
    rw [List.mapM_cons, hvalue, ih hcs]
    rfl

theorem isDigit_of_mapM_digitValue? {ds : List Nat} (h : cs.mapM digitValue? = some ds) :
    ∀ c ∈ cs, c.isDigit = true := by
  induction cs generalizing ds with
  | nil => exact List.forall_mem_nil _
  | cons c cs ih =>
    rw [List.mapM_cons] at h
    cases hc : c.isDigit with
    | false => simp [digitValue?, hc] at h
    | true =>
      cases hcs : cs.mapM digitValue? with
      | none => simp [digitValue?, hc, hcs] at h
      | some ds => exact List.forall_mem_cons.mpr ⟨hc, ih hcs⟩

theorem readNat?_eq_some_iff : readNat? cs = some n
    ↔ cs ≠ [] ∧ (∀ c ∈ cs, c.isDigit = true) ∧ Nat.ofDigitChars 10 cs 0 = n := by
  have hvalue : ofDigits 10 (cs.map fun c => c.toNat - '0'.toNat) = Nat.ofDigitChars 10 cs 0 := by
    simp only [ofDigits, List.foldl_map, Nat.ofDigitChars_eq_foldl, Nat.mul_comm]
  unfold readNat?
  cases cs with
  | nil => simp
  | cons c cs =>
    rw [List.isEmpty_cons, if_neg Bool.false_ne_true, Option.map_eq_some_iff]
    constructor
    · intro ⟨ds, hds, hn⟩
      have hdigits := isDigit_of_mapM_digitValue? hds
      rw [mapM_digitValue?_of_isDigit hdigits, Option.some.injEq] at hds
      rw [← hds, hvalue] at hn
      exact ⟨List.cons_ne_nil c cs, hdigits, hn⟩
    · intro ⟨_, hdigits, hn⟩
      exact ⟨_, mapM_digitValue?_of_isDigit hdigits, hvalue.trans hn⟩

theorem readNat?_toDigits (n : Nat) : readNat? (Nat.toDigits 10 n) = some n :=
  readNat?_eq_some_iff.mpr
    ⟨Nat.toDigits_ne_nil, fun _ => Nat.isDigit_of_mem_toDigits (by decide) (by decide),
      Nat.ofDigitChars_ten_toDigits⟩

theorem digitChar_of_isDigit {c : Char} (h : c.isDigit = true) :
    c.toNat - '0'.toNat < 10 ∧ Nat.digitChar (c.toNat - '0'.toNat) = c := by
  obtain ⟨hlow, hhigh⟩ : 48 ≤ c.toNat ∧ c.toNat ≤ 57 := Char.isDigit_iff_toNat.mp h
  have hzero : '0'.toNat = 48 := rfl
  have hlt : c.toNat - '0'.toNat < 10 := by omega
  refine ⟨hlt, Char.toNat_inj.mp ?_⟩
  rw [Nat.toNat_digitChar_of_lt_ten hlt]
  omega

/-- A row of digits is the written form of its number or longer than that. -/
theorem eq_toDigits_or_length_lt (hne : cs ≠ []) (h : ∀ c ∈ cs, c.isDigit = true) :
    cs = Nat.toDigits 10 (Nat.ofDigitChars 10 cs 0)
      ∨ (Nat.toDigits 10 (Nat.ofDigitChars 10 cs 0)).length < cs.length := by
  induction cs using List.reverseRecOn with
  | nil => exact absurd rfl hne
  | append_singleton cs c ih =>
    have hcs : ∀ c ∈ cs, c.isDigit = true := fun d hd => h d (by simp [hd])
    have hc : c.isDigit = true := h c (by simp)
    obtain ⟨hlt, hchar⟩ := digitChar_of_isDigit hc
    have hlast : Nat.toDigits 10 (c.toNat - '0'.toNat) = [c] := by
      rw [Nat.toDigits_of_lt_base hlt, hchar]
    rw [Nat.ofDigitChars_append, Nat.ofDigitChars_cons, Nat.ofDigitChars_nil, List.length_append,
      List.length_singleton]
    generalize hm : Nat.ofDigitChars 10 cs 0 = m at ih
    rcases Nat.eq_zero_or_pos m with rfl | hpos
    · -- zeros in front, if there are any digits in front
      rw [Nat.mul_zero, Nat.zero_add, hlast]
      cases cs with
      | nil => exact .inl rfl
      | cons => exact .inr (by simp)
    · have hwritten : Nat.toDigits 10 (10 * m + (c.toNat - '0'.toNat))
          = Nat.toDigits 10 m ++ [c] := by
        rw [← Nat.toDigits_append_toDigits (by decide) hpos hlt, hlast]
      have hfront : cs ≠ [] := by
        rintro rfl
        rw [Nat.ofDigitChars_nil] at hm
        omega
      rw [hwritten, List.length_append, List.length_singleton]
      rcases ih hfront hcs with hsame | hlonger
      · exact .inl (congrArg (· ++ [c]) hsame)
      · exact .inr (by omega)

theorem eq_toDigits_or_length_lt_of_readNat? (h : readNat? cs = some n) :
    cs = Nat.toDigits 10 n ∨ (Nat.toDigits 10 n).length < cs.length := by
  obtain ⟨hne, hdigits, rfl⟩ := readNat?_eq_some_iff.mp h
  exact eq_toDigits_or_length_lt hne hdigits

theorem toList_toString_natCast (m : Nat) : (toString (m : Int)).toList = Nat.toDigits 10 m := by
  rw [Int.toString_eq_repr, Int.repr_eq_if, if_pos (by omega), Int.toNat_natCast, Nat.toList_repr]

theorem toList_toString_neg {m : Nat} (h : 0 < m) :
    (toString (-(m : Int))).toList = '-' :: Nat.toDigits 10 m := by
  rw [Int.toString_eq_repr, Int.repr_eq_if, if_neg (by omega), Int.neg_neg, Int.toNat_natCast,
    String.toList_append, Nat.toList_repr]
  rfl

theorem readInt?_of_isDigit (h : ∀ c ∈ cs, c.isDigit = true) :
    readInt? cs = (readNat? cs).map Int.ofNat := by
  unfold readInt?
  split
  next cs => exact absurd (h '-' (by simp)) (by decide)
  next cs => exact absurd (h '+' (by simp)) (by decide)
  next => cases readNat? cs <;> rfl

theorem readInt?_toString (n : Int) : readInt? (toString n).toList = some n := by
  obtain ⟨m, rfl | rfl⟩ := n.eq_nat_or_neg
  · rw [toList_toString_natCast, readInt?_of_isDigit, readNat?_toDigits]
    · rfl
    · exact fun _ => Nat.isDigit_of_mem_toDigits (by decide) (by decide)
  · rcases Nat.eq_zero_or_pos m with rfl | hpos
    · rfl
    · rw [toList_toString_neg hpos, readInt?, readNat?_toDigits]
      rfl

/-- A text that reads as the integer is its written form or longer than that. -/
theorem eq_toString_or_length_lt {n : Int} (h : readInt? cs = some n) :
    cs = (toString n).toList ∨ (toString n).toList.length < cs.length := by
  unfold readInt? at h
  split at h
  next cs =>
    obtain ⟨m, hm, rfl⟩ : ∃ m, readNat? cs = some m ∧ -(m : Int) = n := by
      simpa [Option.bind_eq_some_iff] using h
    have hdigits := eq_toDigits_or_length_lt_of_readNat? hm
    rcases Nat.eq_zero_or_pos m with rfl | hpos
    · -- minus zero
      have hne : cs ≠ [] := (readNat?_eq_some_iff.mp hm).1
      have hlength : 0 < cs.length := List.length_pos_iff.mpr hne
      refine .inr ?_
      change 1 < cs.length + 1
      omega
    · rw [toList_toString_neg hpos, List.length_cons, List.length_cons, Nat.add_lt_add_iff_right]
      exact hdigits.imp (congrArg ('-' :: ·)) id
  next cs =>
    obtain ⟨m, hm, rfl⟩ : ∃ m, readNat? cs = some m ∧ (m : Int) = n := by
      simpa [Option.bind_eq_some_iff] using h
    rw [toList_toString_natCast, List.length_cons]
    rcases eq_toDigits_or_length_lt_of_readNat? hm with hsame | hlonger
    · exact .inr (by rw [hsame]; omega)
    · exact .inr (by omega)
  next =>
    obtain ⟨m, hm, rfl⟩ : ∃ m, readNat? cs = some m ∧ (m : Int) = n := by
      simpa [Option.bind_eq_some_iff] using h
    rw [toList_toString_natCast]
    exact eq_toDigits_or_length_lt_of_readNat? hm

structure MinimalDecimal (text : String) (n : Int) : Prop where
  reads : readInt? text.toList = some n
  shortest (other : String) :
    readInt? other.toList = some n → other = text ∨ text.length < other.length

theorem minimalDecimal_toString (n : Int) : MinimalDecimal (toString n) n where
  reads := readInt?_toString n
  shortest other h := by
    rw [← String.toList_inj, ← String.length_toList, ← String.length_toList]
    exact eq_toString_or_length_lt h

end DocQuery.Text
