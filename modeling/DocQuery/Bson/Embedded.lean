import DocQuery.Bson.Relaxed
import DocQuery.Json.Record

/-!
Values as parts of records written in JSON. Documents keep the order of their keys. Dates are always
counted, numbers that JSON cannot hold become null, and plain bytes are an array.
-/
namespace DocQuery

namespace Value

mutual
def embedded : Value → Json
  | .double x => .number (.double x)
  | .scopedCode s scope =>
    .object [("$code", .string s), ("$scope", .object (embeddedEntries scope))]
  | .regex pattern options =>
    wrap "$regularExpression" (.object [("pattern", .string pattern), ("options", .string options)])
  | .timestamp time increment =>
    wrap "$timestamp" (.object [("t", .int time.toNat), ("i", .int increment.toNat)])
  | .binary subtype bytes =>
    if subtype = 0 then .array (bytes.map fun byte => .int byte.toNat) else wrapBinary subtype bytes
  | .dbPointer collection id =>
    wrap "$dbPointer" (.object [("$ref", .string collection), ("$id", wrapId id)])
  | .dateTime t => wrapMillis t
  | .array items => .array (embeddedItems items)
  | .document entries => .object (embeddedEntries entries)
  | .null => .null
  | .undefined => relaxed .undefined
  | .minKey => relaxed .minKey
  | .maxKey => relaxed .maxKey
  | .boolean b => relaxed (.boolean b)
  | .int32 n => relaxed (.int32 n)
  | .int64 n => relaxed (.int64 n)
  | .decimal d => relaxed (.decimal d)
  | .string s => relaxed (.string s)
  | .symbol s => relaxed (.symbol s)
  | .code s => relaxed (.code s)
  | .objectId id => relaxed (.objectId id)

def embeddedItems : List Value → List Json
  | [] => []
  | v :: rest => embedded v :: embeddedItems rest

def embeddedEntries : List (String × Value) → List (String × Json)
  | [] => []
  | (k, v) :: rest => (k, embedded v) :: embeddedEntries rest
end

/-- Integers below zero take the wide type. -/
def ofEmbeddedNumber? : Json.Number → Option Value
  | .int n =>
    if n < 0 then some (.int64 (Int64.ofInt n))
    else if Word.fitsInt64 n then some (ofInteger n)
    else none
  | .double x => some (.double x)

def byte? : Json.Syntax → Option UInt8
  | .number n =>
    match n.number? with
    | some (.int k) => if 0 ≤ k && k < 256 then some (UInt8.ofNat k.toNat) else none
    | _ => none
  | _ => none

def decimalOfBytes? : Json.Syntax → Option Decimal128
  | .string s => Decimal128.ofBytes? s.bytes
  | .array items => (items.mapM byte?).bind Decimal128.ofBytes?
  | _ => none

/-- A value of a type that is named by a key. No part of it is given twice. -/
def typed? (name : String) (body : Json.Syntax) : Option Value :=
  if name = "$numberDecimalBytes" then (decimalOfBytes? body).map .decimal
  else if body.hasDistinctKeys then (body.value? Json.maxDepth).bind (wrapped? name)
  else none

mutual
def ofSyntax? : Json.Syntax → Option Value
  | .null => some .null
  | .bool b => some (.boolean b)
  | .number n => n.number?.bind ofEmbeddedNumber?
  | .string s => s.text?.map .string
  | .array items => (itemsOfSyntax? items).map .array
  | .object members => membersOfSyntax? [] members

def itemsOfSyntax? : List Json.Syntax → Option (List Value)
  | [] => some []
  | s :: rest => do
    let v ← ofSyntax? s
    return v :: (← itemsOfSyntax? rest)

/-- The first key that names a type makes the whole object a value of that type, and must be the
last one; only code and its scope go together, in either order. -/
def membersOfSyntax? (done : Document) : List (Option String × Json.Syntax) → Option Value
  | [] => some (.document done)
  | (none, _) :: _ => none
  | (some "$code", .string s) :: [(some "$scope", scope)] =>
    match s.text?, ofSyntax? scope with
    | some s, some (.document d) => some (.scopedCode s d)
    | _, _ => none
  | (some "$scope", scope) :: [(some "$code", .string s)] =>
    match s.text?, ofSyntax? scope with
    | some s, some (.document d) => some (.scopedCode s d)
    | _, _ => none
  | (some "$scope", _) :: _ => none
  | (some key, s) :: rest =>
    if isTypeName key || key == "$numberDecimalBytes" then
      if rest.isEmpty then typed? key s else none
    else do
      let v ← ofSyntax? s
      membersOfSyntax? (done.insert key v) rest
end

end Value

namespace Document

def embedded (d : Document) : Json := Value.embedded (.document d)

def ofSyntax? (s : Json.Syntax) : Option Document :=
  match Value.ofSyntax? s with
  | some (.document d) => some d
  | _ => none

end Document

end DocQuery
