import DocQuery.Number.Decimal128
import DocQuery.Time.Instant

/-!
The values of a document store and its documents. A document is a list of entries in order; where a
key stands more than once, the first entry counts.
-/
namespace DocQuery

/-- Twelve bytes, as the number that they write. Identifiers that a store makes have a serial number
above zero, by which they differ from all that are written out. -/
structure ObjectId where
  value : BitVec 96
  serial : Nat
deriving DecidableEq, Repr

namespace ObjectId

def hex (id : ObjectId) : String := Text.writeHex 24 id.value.toNat

def readHex? (text : String) : Option ObjectId :=
  if text.length = 24 then (Text.readHex? text.toList).map fun n => ⟨BitVec.ofNat 96 n, 0⟩ else none

/-- By the bytes; of equal bytes, those that were written out come first. -/
def compare (a b : ObjectId) : Ordering :=
  (Ord.compare a.value.toNat b.value.toNat).then (Ord.compare a.serial b.serial)

end ObjectId

inductive Value where
  | null
  | undefined
  | minKey
  | maxKey
  | boolean (b : Bool)
  | int32 (n : Int32)
  | int64 (n : Int64)
  | double (x : Binary64)
  | decimal (d : Decimal128)
  | string (s : String)
  | symbol (s : String)
  | code (s : String)
  | scopedCode (s : String) (scope : List (String × Value))
  | regex (pattern options : String)
  | timestamp (time increment : UInt32)
  | binary (subtype : UInt8) (bytes : List UInt8)
  | objectId (id : ObjectId)
  | dbPointer (collection : String) (id : ObjectId)
  | dateTime (t : Instant)
  | array (items : List Value)
  | document (entries : List (String × Value))
deriving Inhabited

abbrev Document := List (String × Value)

namespace Document

def get? : Document → String → Option Value
  | [], _ => none
  | (k, v) :: rest, key => if k = key then some v else get? rest key

def contains (d : Document) (key : String) : Bool := (d.get? key).isSome

def keys (d : Document) : List String := d.map (·.1)

/-- A new key comes last; a present one keeps its place and takes the new value. -/
def insert : Document → String → Value → Document
  | [], key, value => [(key, value)]
  | (k, v) :: rest, key, value =>
    if k = key then (k, value) :: rest else (k, v) :: insert rest key value

def erase (d : Document) (key : String) : Document := d.filter fun e => e.1 != key

def ofEntries (entries : List (String × Value)) : Document :=
  entries.foldl (fun d e => d.insert e.1 e.2) []

theorem get?_insert_self (d : Document) (key : String) (value : Value) :
    (d.insert key value).get? key = some value := by
  induction d with
  | nil => simp [insert, get?]
  | cons e rest ih =>
    obtain ⟨k, v⟩ := e
    by_cases h : k = key <;> simp [insert, get?, h, ih]

theorem get?_insert_of_ne (d : Document) {key other : String} (value : Value) (h : other ≠ key) :
    (d.insert key value).get? other = d.get? other := by
  induction d with
  | nil => simp [insert, get?, h.symm]
  | cons e rest ih =>
    obtain ⟨k, v⟩ := e
    by_cases hk : k = key
    · subst hk; simp [insert, get?, h.symm]
    · by_cases ho : k = other
      · subst ho; simp [insert, get?, h]
      · simp [insert, get?, hk, ho, ih]

theorem get?_eq_none_iff (d : Document) (key : String) : d.get? key = none ↔ key ∉ d.keys := by
  induction d with
  | nil => simp [get?, keys]
  | cons e rest ih =>
    obtain ⟨k, v⟩ := e
    by_cases h : k = key
    · simp [get?, keys, h]
    · simpa [get?, keys, h, Ne.symm h] using ih

end Document

end DocQuery
