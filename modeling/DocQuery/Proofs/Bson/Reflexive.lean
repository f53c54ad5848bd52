import DocQuery.Bson.Equality

/-!
Which values are equal to themselves: all but those that are NaN or have a NaN inside. Inside arrays
and documents only doubles count, since decimals there are compared digit by digit.
-/
namespace DocQuery

namespace Binary64

theorem equal_self {x : Binary64} (h : x.isNaN = false) : x.equal x = true := by
  simp [equal, h]

theorem magnitude_ofParts (negative : Bool) {m : Nat} (h : m < signWeight) :
    (ofParts negative m).magnitude = m := by
  have hsign : (if negative then signWeight else 0) ≤ signWeight := by split <;> simp
  have hlt : (if negative then signWeight else 0) + m < UInt64.size := by
    have hsize : UInt64.size = signWeight + signWeight := rfl
    omega
  unfold magnitude ofParts
  rw [UInt64.toNat_ofNat_of_lt' hlt]
  cases negative with
  | true => simp [Nat.mod_eq_of_lt h]
  | false => simp [Nat.mod_eq_of_lt h]

theorem isNaN_ofParts (negative : Bool) {m : Nat} (h : m ≤ infiniteMagnitude) :
    (ofParts negative m).isNaN = false := by
  have hlt : m < signWeight := Nat.lt_of_le_of_lt h (by decide)
  simpa [isNaN, magnitude_ofParts negative hlt] using h

theorem nearest_le (num den : Nat) : nearest num den ≤ infiniteMagnitude := Nat.min_le_right _ _

/-- Rounding goes up to infinity but not past it. -/
theorem decimalMagnitude_le (coefficient : Nat) (exponent : Int) :
    decimalMagnitude coefficient exponent ≤ infiniteMagnitude := by
  cases exponent with
  | ofNat k =>
    simp only [decimalMagnitude]
    split
    · exact Nat.zero_le _
    · split
      · exact Nat.le_refl _
      · exact nearest_le _ _
  | negSucc k =>
    simp only [decimalMagnitude]
    split
    · exact Nat.zero_le _
    · exact nearest_le _ _

end Binary64

namespace Value

def isNaN : Value → Bool
  | .double x => x.isNaN
  | .decimal (.nan ..) => true
  | _ => false

theorem isNaN_of_number? {v : Value} {x : Binary64} (h : v.number? = some x) :
    x.isNaN = v.isNaN := by
  cases v with
  | int32 n | int64 n =>
    cases h
    exact Binary64.isNaN_ofParts _ (Binary64.nearest_le _ _)
  | double y =>
    cases h
    rfl
  | decimal d =>
    cases h
    cases d with
    | finite negative coefficient exponent =>
      exact Binary64.isNaN_ofParts _ (Binary64.decimalMagnitude_le _ _)
    | infinity negative rest => exact Binary64.isNaN_ofParts _ (Nat.le_refl _)
    | nan negative signaling rest => exact (by decide +kernel : Binary64.nan.isNaN = true)
  | _ => cases h

mutual
def hasNaN : Value → Bool
  | .double x => x.isNaN
  | .scopedCode _ scope => entriesHaveNaN scope
  | .array items => itemsHaveNaN items
  | .document entries => entriesHaveNaN entries
  | _ => false

def itemsHaveNaN : List Value → Bool
  | [] => false
  | v :: rest => hasNaN v || itemsHaveNaN rest

def entriesHaveNaN : List (String × Value) → Bool
  | [] => false
  | (_, v) :: rest => hasNaN v || entriesHaveNaN rest
end

def nanFree (v : Value) : Bool := !v.isNaN && !v.hasNaN

theorem covers_self (d : Document) : covers d d = true := by
  rw [covers, List.all_eq_true]
  intro e he
  have hkey : e.1 ∈ Document.keys d := List.mem_map_of_mem he
  cases hget : Document.get? d e.1 with
  | none => exact absurd hkey ((Document.get?_eq_none_iff d e.1).mp hget)
  | some v => simp [Document.contains, hget]

mutual
theorem identical_self (v : Value) (h : v.hasNaN = false) : identical v v = true := by
  cases v with
  | double x => exact Binary64.equal_self h
  | array items => exact identicalItems_self items h
  | document d =>
    have hd := identicalEntries_self [] d d h fun _ _ => rfl
    simp [identical, hd, covers_self]
  | scopedCode s scope =>
    have hd := identicalEntries_self [] scope scope h fun _ _ => rfl
    simp [identical, hd, covers_self]
  | _ => simp [identical]

theorem identicalItems_self (items : List Value) (h : itemsHaveNaN items = false) :
    identicalItems items items = true := by
  match items with
  | [] => rfl
  | v :: rest =>
    rw [itemsHaveNaN, Bool.or_eq_false_iff] at h
    rw [identicalItems, identical_self v h.1, identicalItems_self rest h.2]
    rfl

theorem identicalEntries_self (seen : List String) (rest : List (String × Value)) (d : Document)
    (h : entriesHaveNaN rest = false)
    (hrest : ∀ k ∉ seen, Document.get? d k = Document.get? rest k) :
    identicalEntries seen rest d = true := by
  match rest with
  | [] => rfl
  | (k, v) :: rest =>
    rw [entriesHaveNaN, Bool.or_eq_false_iff] at h
    have htail : identicalEntries (k :: seen) rest d = true := by
      refine identicalEntries_self (k :: seen) rest d h.2 fun k' hk' => ?_
      rw [List.mem_cons, not_or] at hk'
      rw [hrest k' hk'.2, Document.get?, if_neg (Ne.symm hk'.1)]
    rw [identicalEntries, htail, Bool.and_true]
    by_cases hk : k ∈ seen
    · simp [hk]
    · have hget : Document.get? d k = some v := by
        rw [hrest k hk, Document.get?, if_pos rfl]
      simp [hget, identical_self v h.1]
end

theorem equal_self {v : Value} (h : v.nanFree = true) : v.equal v = true := by
  simp only [nanFree, Bool.and_eq_true, Bool.not_eq_true'] at h
  unfold equal
  cases hn : v.number? with
  | some x => exact Binary64.equal_self ((isNaN_of_number? hn).trans h.1)
  | none =>
    cases ht : v.text? with
    | some s => exact beq_self_eq_true s
    | none => exact identical_self v h.2

end Value

end DocQuery
