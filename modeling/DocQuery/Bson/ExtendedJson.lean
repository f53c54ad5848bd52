import DocQuery.Bson.Value
import DocQuery.Json.Value
import DocQuery.Number.Literal
import DocQuery.Text.Base64

/-!
Reading values from extended JSON. An object whose key is the name of a type, such as `$date`,
stands for a value of that type and must have its exact form; every other object is a document.
-/
namespace DocQuery.Value

def ofInteger (n : Int) : Value :=
  if Word.fitsInt32 n then .int32 (Int32.ofInt n)
  else if Word.fitsInt64 n then .int64 (Int64.ofInt n)
  else .double (Binary64.ofInt n)

def ofNumber : Json.Number → Value
  | .int n => ofInteger n
  | .double x => .double x

/-- The parts of a record, all of them and no other: members by name, or items in order. -/
def parts? (names : List String) : Json → Option (List Json)
  | .object members =>
    if members.length = names.length then names.mapM fun name => Json.member? name members else none
  | .array items => if items.length = names.length then some items else none
  | _ => none

def readInt32? (text : String) : Option Int32 := do
  let n ← Text.readInt? text.toList
  if Word.fitsInt32 n then some (Int32.ofInt n) else none

def readInt64? (text : String) : Option Int64 := do
  let n ← Text.readInt? text.toList
  if Word.fitsInt64 n then some (Int64.ofInt n) else none

def sortLetters (options : String) : String :=
  String.ofList (options.toList.mergeSort fun a b => a ≤ b)

def readRegex? (body : Json) : Option Value := do
  let [.string pattern, .string options] ← parts? ["pattern", "options"] body | none
  guard (!pattern.contains '\x00' && !options.contains '\x00')
  return .regex pattern (sortLetters options)

def readBinary? (body : Json) : Option Value := do
  let [.string base64, .string subtype] ← parts? ["base64", "subType"] body | none
  let bytes ← Text.Base64.decode? base64.toList
  let [subtype] ← Text.readBytes? subtype.toList | none
  return .binary subtype bytes

def readHyphenated? (text : List Char) : Option (List UInt8) :=
  let hyphens := [8, 13, 18, 23]
  let digits := text.zipIdx.filter fun (_, i) => !hyphens.contains i
  if text.length = 36 && hyphens.all fun i => text[i]? == some '-' then
    Text.readBytes? (digits.map (·.1))
  else none

/-- Thirty-two digits in a row, or in groups; groups may stand in braces or after `urn:uuid:`. -/
def readUuid? (text : String) : Option Value :=
  let chars := text.toList
  let bytes :=
    if chars.length = 32 then Text.readBytes? chars
    else if chars.length = 38 && chars.head? == some '\x7b' && chars.getLast? == some '\x7d' then
      readHyphenated? (chars.drop 1).dropLast
    else if chars.length = 45 && chars.take 9 == "urn:uuid:".toList then
      readHyphenated? (chars.drop 9)
    else readHyphenated? chars
  bytes.map (.binary 4)

def readWord32? : Json → Option UInt32
  | .number (.int n) => if Word.fitsWord32 n then some (UInt32.ofNat n.toNat) else none
  | _ => none

def readTimestamp? (body : Json) : Option Value := do
  let [time, increment] ← parts? ["t", "i"] body | none
  return .timestamp (← readWord32? time) (← readWord32? increment)

def readDate? : Json → Option Value
  | .number (.int n) => if Word.fitsInt64 n then some (.dateTime ⟨Int64.ofInt n⟩) else none
  | .string s => (Instant.readRfc3339? s).map .dateTime
  | body => do
    let [.string millis] ← parts? ["$numberLong"] body | none
    return .dateTime ⟨← readInt64? millis⟩

def readPointer? (body : Json) : Option Value := do
  let [.string collection, id] ← parts? ["$ref", "$id"] body | none
  let [.string hex] ← parts? ["$oid"] id | none
  return .dbPointer collection (← ObjectId.readHex? hex)

/-- The value that an object with the single key `name` stands for; `none` if it has not the form of
that type. Code with a scope has two keys and is not here. -/
def wrapped? (name : String) (body : Json) : Option Value :=
  match name, body with
  | "$oid", .string s => (ObjectId.readHex? s).map .objectId
  | "$symbol", .string s => some (.symbol s)
  | "$regularExpression", body => readRegex? body
  | "$numberInt", .string s => (readInt32? s).map .int32
  | "$numberLong", .string s => (readInt64? s).map .int64
  | "$numberDouble", .string s => (Binary64.readDecimal? s).map .double
  | "$numberDecimal", .string s => (Decimal128.read? s).map .decimal
  | "$binary", body => readBinary? body
  | "$uuid", .string s => readUuid? s
  | "$code", .string s => some (.code s)
  | "$timestamp", body => readTimestamp? body
  | "$date", body => readDate? body
  | "$minKey", .number (.int 1) => some .minKey
  | "$maxKey", .number (.int 1) => some .maxKey
  | "$dbPointer", body => readPointer? body
  | "$undefined", .bool true => some .undefined
  | _, _ => none

def typeNames : List String :=
  ["$oid", "$symbol", "$regularExpression", "$numberInt", "$numberLong", "$numberDouble",
   "$numberDecimal", "$binary", "$uuid", "$code", "$timestamp", "$date", "$minKey", "$maxKey",
   "$dbPointer", "$undefined"]

def isTypeName (key : String) : Bool := typeNames.contains key

mutual
def ofJson? : Json → Option Value
  | .null => some .null
  | .bool b => some (.boolean b)
  | .number n => some (ofNumber n)
  | .string s => some (.string s)
  | .array items => (itemsOfJson? items).map .array
  | .object [("$code", .string s), ("$scope", .object scope)] =>
    (entriesOfJson? scope).map (.scopedCode s)
  | .object [("$code", .string s), ("$scope", .null)] => some (.code s)
  | .object members =>
    match members.filter fun m => isTypeName m.1 with
    | [] => (entriesOfJson? members).map .document
    | (name, body) :: _ => if members.length = 1 then wrapped? name body else none

def itemsOfJson? : List Json → Option (List Value)
  | [] => some []
  | j :: rest => do
    let v ← ofJson? j
    return v :: (← itemsOfJson? rest)

def entriesOfJson? : List (String × Json) → Option (List (String × Value))
  | [] => some []
  | (k, j) :: rest => do
    let v ← ofJson? j
    return (k, v) :: (← entriesOfJson? rest)
end

end DocQuery.Value

namespace DocQuery.Document

/-- The outermost object is always a document, whatever its keys. -/
def ofJson? : Json → Option Document
  | .object members => Value.entriesOfJson? members
  | _ => none

end DocQuery.Document
