import DocQuery.Proofs.Bson.Reflexive

/-!
The two equalities of values go both ways and from one value to the next. Being identical is read as
a relation, item by item and key by key, in which the order of the entries has no part.
-/
namespace DocQuery

namespace Binary64

variable {x y z : Binary64}

theorem equal_eq_true_iff : x.equal y = true
    ↔ x.isNaN = false ∧ y.isNaN = false ∧ (x = y ∨ x.isZero = true ∧ y.isZero = true) := by
  simp [equal, and_assoc]

theorem equal_symm (h : x.equal y = true) : y.equal x = true := by
  rw [equal_eq_true_iff] at h ⊢
  obtain ⟨hx, hy, hsame | ⟨hzx, hzy⟩⟩ := h
  · exact ⟨hy, hx, .inl hsame.symm⟩
  · exact ⟨hy, hx, .inr ⟨hzy, hzx⟩⟩

theorem equal_trans (hxy : x.equal y = true) (hyz : y.equal z = true) : x.equal z = true := by
  rw [equal_eq_true_iff] at hxy hyz ⊢
  obtain ⟨hx, hy, rfl | ⟨hzx, hzy⟩⟩ := hxy
  · exact hyz
  · obtain ⟨-, hz, rfl | ⟨-, hzz⟩⟩ := hyz
    · exact ⟨hx, hz, .inr ⟨hzx, hzy⟩⟩
    · exact ⟨hx, hz, .inr ⟨hzx, hzz⟩⟩

end Binary64

namespace Document

variable {d rest : Document} {key : String} {v : Value}

theorem sizeOf_lt_of_get? (h : d.get? key = some v) : sizeOf v < sizeOf d := by
  induction d with
  | nil => cases h
  | cons e rest ih =>
    obtain ⟨k, w⟩ := e
    simp only [get?] at h
    split at h
    · cases h
      simp only [List.cons.sizeOf_spec, Prod.mk.sizeOf_spec]
      omega
    · have hrest := ih h
      simp only [List.cons.sizeOf_spec, Prod.mk.sizeOf_spec]
      omega

end Document

namespace Value

variable {a b c : Value}

theorem covers_iff {d e : Document} :
    covers d e = true ↔ ∀ k, d.get? k = none → e.get? k = none := by
  have hcovers : covers d e = true ↔ ∀ k ∈ e.keys, (d.get? k).isSome = true := by
    simp [covers, Document.contains, Document.keys]
  rw [hcovers]
  refine forall_congr' fun k => ?_
  rw [Document.get?_eq_none_iff e]
  cases Document.get? d k <;> simp

theorem identicalEntries_cons (seen : List String) (k : String) (v : Value) (rest d : Document) :
    identicalEntries seen ((k, v) :: rest) d
      = ((seen.contains k || (d.get? k).any (identical v))
        && identicalEntries (k :: seen) rest d) := by
  rw [identicalEntries]
  cases d.get? k <;> rfl

/-- Past the keys that were seen, each entry that counts has its partner. -/
theorem identicalEntries_iff {seen : List String} {rest d : Document} :
    identicalEntries seen rest d = true
      ↔ ∀ k ∉ seen, ∀ v, rest.get? k = some v → ∃ w, d.get? k = some w ∧ identical v w = true := by
  induction rest generalizing seen with
  | nil => simp [identicalEntries, Document.get?]
  | cons e rest ih =>
    obtain ⟨key, first⟩ := e
    rw [identicalEntries_cons, Bool.and_eq_true, ih]
    constructor
    · intro h k hk v hv
      by_cases hkey : key = k
      · subst hkey
        rw [Document.get?, if_pos rfl, Option.some.injEq] at hv
        simpa [hk, hv, Option.any_eq_true] using h.1
      · rw [Document.get?, if_neg hkey] at hv
        exact h.2 k (List.not_mem_cons_of_ne_of_not_mem (Ne.symm hkey) hk) v hv
    · intro h
      refine ⟨?_, fun k hk v hv => ?_⟩
      · by_cases hkey : key ∈ seen
        · simp [hkey]
        · simpa [hkey, Option.any_eq_true] using h key hkey first (by simp [Document.get?])
      · obtain ⟨hkey, hseen⟩ : k ≠ key ∧ k ∉ seen := by simpa using hk
        exact h k hseen v (by simpa [Document.get?, hkey.symm] using hv)

/-- Values of the same type and content. An array goes item by item. A document goes by what is
found under each key, so the order of its entries does not matter. -/
inductive Identical : Value → Value → Prop where
  | same {v : Value} (h : v.hasNaN = false) : Identical v v
  | double {x y : Binary64} (h : x.equal y = true) : Identical (.double x) (.double y)
  | item {v w : Value} {vs ws : List Value} (h : Identical v w)
    (hrest : Identical (.array vs) (.array ws)) : Identical (.array (v :: vs)) (.array (w :: ws))
  | document {d e : Document} (hkeys : ∀ k, d.get? k = none ↔ e.get? k = none)
    (hvalues : ∀ k v w, d.get? k = some v → e.get? k = some w → Identical v w) :
    Identical (.document d) (.document e)
  | scopedCode (s : String) {d e : Document} (h : Identical (.document d) (.document e)) :
    Identical (.scopedCode s d) (.scopedCode s e)

theorem identical_document_iff {d e : Document} :
    identical (.document d) (.document e) = true ↔
      (∀ k, d.get? k = none ↔ e.get? k = none)
        ∧ ∀ k v w, d.get? k = some v → e.get? k = some w → identical v w = true := by
  rw [identical, Bool.and_eq_true, identicalEntries_iff, covers_iff]
  constructor
  · intro ⟨hvalues, hkeys⟩
    refine ⟨fun k => ⟨hkeys k, fun hnone => ?_⟩, fun k v w hv hw => ?_⟩
    · cases hd : d.get? k with
      | none => rfl
      | some v =>
        obtain ⟨w, hw, -⟩ := hvalues k List.not_mem_nil v hd
        rw [hnone] at hw
        cases hw
    · obtain ⟨w', hw', hidentical⟩ := hvalues k List.not_mem_nil v hv
      rw [hw, Option.some.injEq] at hw'
      exact hw' ▸ hidentical
  · intro ⟨hkeys, hvalues⟩
    refine ⟨fun k _ v hv => ?_, fun k hk => (hkeys k).mp hk⟩
    cases he : e.get? k with
    | none =>
      rw [(hkeys k).mpr he] at hv
      cases hv
    | some w => exact ⟨w, rfl, hvalues k v w hv he⟩

/-- By induction on the size, since the values of a document are found by their keys. -/
theorem Identical.of_identical (h : identical a b = true) : Identical a b := by
  induction hsize : sizeOf a using Nat.strongRecOn generalizing a b with
  | _ n ih =>
    subst hsize
    fun_cases identical a b with
    | case8 x y => exact .double h
    | case13 s d t e =>
      -- code with a scope
      rw [identical, Bool.and_assoc, Bool.and_eq_true, beq_iff_eq] at h
      obtain ⟨rfl, hscope⟩ := h
      have hsize : sizeOf (Value.document d) < sizeOf (Value.scopedCode s d) := by
        cases s
        simp only [document.sizeOf_spec, scopedCode.sizeOf_spec, String.ofByteArray.sizeOf_spec]
        omega
      exact .scopedCode s (ih _ hsize (by rwa [identical]) rfl)
    | case20 vs ws =>
      -- arrays
      match vs, ws, h with
      | [], [], _ => exact .same rfl
      | v :: vs, w :: ws, h =>
        obtain ⟨hfirst, hrest⟩ : identical v w = true ∧ identicalItems vs ws = true := by
          simpa [identical, identicalItems] using h
        have hsize : sizeOf v < sizeOf (array (v :: vs))
            ∧ sizeOf (array vs) < sizeOf (array (v :: vs)) := by
          simp only [array.sizeOf_spec, List.cons.sizeOf_spec]
          omega
        exact .item (ih _ hsize.1 hfirst rfl) (ih _ hsize.2 hrest rfl)
    | case21 d e =>
      -- documents
      obtain ⟨hkeys, hvalues⟩ := identical_document_iff.mp h
      refine .document hkeys fun k v w hv hw => ?_
      have hsize : sizeOf v < sizeOf (Value.document d) := by
        have hv := Document.sizeOf_lt_of_get? hv
        rw [document.sizeOf_spec]
        omega
      exact ih _ hsize (hvalues k v w hv hw) rfl
    | case22 =>
      -- different types
      simp_all [identical]
    | _ =>
      simp_all only [identical, Bool.and_eq_true, beq_iff_eq]
      exact .same rfl

theorem identical_iff : identical a b = true ↔ Identical a b := by
  constructor
  · exact Identical.of_identical
  · intro h
    induction h with
    | same h => exact identical_self _ h
    | double h => exact h
    | item _ _ ih ihrest =>
      rw [identical, identicalItems, ih, Bool.true_and]
      exact ihrest
    | document hkeys _ ih => exact identical_document_iff.mpr ⟨hkeys, ih⟩
    | scopedCode s _ ih => simpa [identical] using ih

namespace Identical

theorem symm (h : Identical a b) : Identical b a := by
  induction h with
  | same h => exact .same h
  | double h => exact .double (Binary64.equal_symm h)
  | item _ _ ih ihrest => exact .item ih ihrest
  | document hkeys _ ih =>
    exact .document (fun k => (hkeys k).symm) fun k v w hv hw => ih k w v hw hv
  | scopedCode s _ ih => exact .scopedCode s ih

theorem trans (hab : Identical a b) (hbc : Identical b c) : Identical a c := by
  induction hab generalizing c with
  | same => exact hbc
  | double hab =>
    cases hbc with
    | same => exact .double hab
    | double hbc => exact .double (Binary64.equal_trans hab hbc)
  | item h hrest ih ihrest =>
    cases hbc with
    | same => exact .item h hrest
    | item h' hrest' => exact .item (ih h') (ihrest hrest')
  | document hkeys hvalues ih =>
    cases hbc with
    | same => exact .document hkeys hvalues
    | document hkeys' hvalues' =>
      refine .document (fun k => (hkeys k).trans (hkeys' k)) fun k v u hv hu => ?_
      obtain ⟨w, hw⟩ := Option.ne_none_iff_exists'.mp fun hnone => by
        rw [(hkeys k).mpr hnone] at hv
        cases hv
      exact ih k v w hv hw (hvalues' k w u hw hu)
  | scopedCode s h ih =>
    cases hbc with
    | same => exact .scopedCode s h
    | scopedCode _ h' => exact .scopedCode s (ih h')

theorem number?_eq_none (h : Identical a b) : a.number? = none ↔ b.number? = none := by
  cases h <;> simp [number?]

theorem text?_eq (h : Identical a b) : a.text? = b.text? := by
  cases h <;> rfl

end Identical

theorem number?_eq_none_of_text? {s : String} (h : a.text? = some s) : a.number? = none := by
  cases a <;> first | rfl | cases h

/-- The three ways to be equal. A value is a number, or a text, or neither. -/
inductive Equal (a b : Value) : Prop where
  | numbers {x y : Binary64} (ha : a.number? = some x) (hb : b.number? = some y)
    (h : x.equal y = true) : Equal a b
  | texts {s : String} (ha : a.text? = some s) (hb : b.text? = some s) : Equal a b
  | others (hnumber : a.number? = none) (htext : a.text? = none) (h : Identical a b) : Equal a b

theorem equal_iff : a.equal b = true ↔ Equal a b := by
  constructor
  · intro h
    unfold equal at h
    split at h
    next x y ha hb => exact .numbers ha hb h
    next hnumbers =>
      split at h
      next s t ha hb =>
        obtain rfl := beq_iff_eq.mp h
        exact .texts ha hb
      next htexts =>
        -- identical values are both numbers or both not, and both texts or both not
        have hab := identical_iff.mp h
        refine .others ?_ ?_ hab
        · cases ha : a.number? with
          | none => rfl
          | some x =>
            cases hb : b.number? with
            | none => simp [hab.number?_eq_none.mpr hb] at ha
            | some y => exact (hnumbers x y ha hb).elim
        · cases ha : a.text? with
          | none => rfl
          | some s => exact (htexts s s ha (hab.text?_eq ▸ ha)).elim
  · intro h
    cases h with
    | numbers ha hb h => simp [equal, ha, hb, h]
    | texts ha hb => simp [equal, number?_eq_none_of_text? ha, ha, hb]
    | others hnumber htext h => simp [equal, hnumber, htext, identical_iff.mpr h]

namespace Equal

theorem symm (h : Equal a b) : Equal b a := by
  cases h with
  | numbers ha hb h => exact .numbers hb ha (Binary64.equal_symm h)
  | texts ha hb => exact .texts hb ha
  | others hnumber htext h =>
    exact .others (h.number?_eq_none.mp hnumber) (h.text?_eq ▸ htext) h.symm

theorem trans (hab : Equal a b) (hbc : Equal b c) : Equal a c := by
  cases hab with
  | numbers ha hb h =>
    cases hbc with
    | numbers hb' hc h' =>
      obtain rfl := Option.some.inj (hb.symm.trans hb')
      exact .numbers ha hc (Binary64.equal_trans h h')
    | texts hb' _ => simp [number?_eq_none_of_text? hb'] at hb
    | others hnumber _ _ => simp [hnumber] at hb
  | texts ha hb =>
    cases hbc with
    | numbers hb' _ _ => simp [number?_eq_none_of_text? hb] at hb'
    | texts hb' hc =>
      obtain rfl := Option.some.inj (hb.symm.trans hb')
      exact .texts ha hc
    | others _ htext _ => simp [htext] at hb
  | others hnumber htext h =>
    cases hbc with
    | numbers hb _ _ => simp [h.number?_eq_none.mp hnumber] at hb
    | texts hb _ => simp [← h.text?_eq, htext] at hb
    | others _ _ h' => exact .others hnumber htext (h.trans h')

end Equal

theorem equal_comm (a b : Value) : a.equal b = b.equal a := by
  rw [Bool.eq_iff_iff, equal_iff, equal_iff]
  exact ⟨Equal.symm, Equal.symm⟩

theorem equal_trans (hab : a.equal b = true) (hbc : b.equal c = true) : a.equal c = true :=
  equal_iff.mpr ((equal_iff.mp hab).trans (equal_iff.mp hbc))

theorem equal_congr_right (h : a.equal b = true) (v : Value) : v.equal a = v.equal b := by
  rw [Bool.eq_iff_iff]
  constructor
  · intro hv
    exact equal_trans hv h
  · intro hv
    rw [equal_comm] at h
    exact equal_trans hv h

end Value

end DocQuery
