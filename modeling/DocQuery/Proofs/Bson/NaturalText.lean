import DocQuery.Bson.Text

/-!
Natural texts are names wherever they can be: the only values whose natural text is empty are the
empty string and the empty symbol.
-/
namespace DocQuery

theorem toString_int_ne_empty (n : Int) : toString n ≠ "" := by
  cases n with
  | ofNat k => exact Nat.repr_ne_empty
  | negSucc k =>
    change "-" ++ Nat.repr (k + 1) ≠ ""
    simp

theorem Text.writeHex_ne_empty (width n : Nat) : Text.writeHex (width + 1) n ≠ "" := by
  simp [Text.writeHex, Text.hexDigits]

namespace Layout

variable (l : Layout) {digits : List Char}

theorem writePositional_ne_empty (h : digits ≠ []) (point : Int) :
    l.writePositional digits point ≠ "" := by
  unfold writePositional
  split
  · simp
  · dsimp only
    split <;> simp [h]

theorem writeScientific_ne_empty (h : digits ≠ []) (point : Int) :
    writeScientific digits point ≠ "" := by
  unfold writeScientific
  split
  · exact absurd rfl h
  · simp
  · simp

theorem write_ne_empty (x : Binary64) : l.write x ≠ "" := by
  have hmagnitude : l.writeMagnitude x.magnitude ≠ "" := by
    unfold writeMagnitude
    split
    · simp
    · dsimp only
      split
      · exact l.writePositional_ne_empty Nat.toDigits_ne_nil _
      · exact writeScientific_ne_empty Nat.toDigits_ne_nil _
  simp [write, hmagnitude]

end Layout

theorem Binary64.naturalText_ne_empty (x : Binary64) : x.naturalText ≠ "" := by
  unfold naturalText
  split
  · simp
  · split
    · split <;> simp
    · split
      · split
        · exact toString_int_ne_empty _
        · exact Layout.write_ne_empty _ x
      · exact Layout.write_ne_empty _ x

theorem Decimal128.text_ne_empty (d : Decimal128) : d.text ≠ "" := by
  cases d with
  | finite negative coefficient exponent =>
    have hdigits : Nat.toDigits 10 (counted coefficient) ≠ [] := Nat.toDigits_ne_nil
    have hmagnitude : magnitudeText (counted coefficient) exponent ≠ "" := by
      unfold magnitudeText
      dsimp only
      split
      · split
        · simp [String.ofList_eq_empty_iff, hdigits]
        · split <;> simp
      · simp [String.ofList_eq_empty_iff, hdigits]
    simp [text, hmagnitude]
  | infinity negative rest => cases negative <;> simp [text]
  | nan negative signaling rest => simp [text]

theorem Instant.naturalText_ne_empty (t : Instant) : t.naturalText ≠ "" := by
  unfold naturalText
  cases h : t.rfc3339? with
  | none => exact toString_int_ne_empty _
  | some text =>
    unfold rfc3339? at h
    dsimp only at h
    split at h
    next => exact absurd h nofun
    next =>
      rw [← Option.some.inj h]
      simp

theorem Json.compact_ne_empty (j : Json) : j.compact ≠ "" := by
  cases j with
  | null => simp [compact]
  | bool b => cases b <;> simp [compact]
  | number n =>
    rw [compact]
    cases n with
    | int n => exact toString_int_ne_empty n
    | double x =>
      unfold Number.text
      dsimp only
      split
      · exact Layout.write_ne_empty _ x
      · simp
  | string s => simp [compact, quote]
  | array items => simp [compact]
  | object members => simp [compact]

theorem Value.naturalText_eq_empty_iff (v : Value) :
    v.naturalText = "" ↔ v = .string "" ∨ v = .symbol "" := by
  cases v with
  | string s | symbol s => simp [naturalText]
  | int32 n | int64 n => exact iff_of_false (toString_int_ne_empty _) (by simp)
  | double x => simp [naturalText, Binary64.naturalText_ne_empty]
  | boolean b => cases b <;> simp [naturalText]
  | null | undefined => simp [naturalText]
  | dateTime t => simp [naturalText, Instant.naturalText_ne_empty]
  | objectId id => simp [naturalText, ObjectId.hex, Text.writeHex_ne_empty]
  | decimal d => simp [naturalText, Decimal128.text_ne_empty]
  | _ => simp [naturalText, jsonText, Json.compact_ne_empty]

end DocQuery
