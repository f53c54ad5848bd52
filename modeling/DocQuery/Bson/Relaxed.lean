import DocQuery.Bson.Value
import DocQuery.Json.Printer
import DocQuery.Text.Base64
import DocQuery.Bson.ExtendedJson

/-!
Writing values as relaxed extended JSON: plain numbers and readable dates where JSON can hold them,
type wrappers elsewhere, and the keys of every object in order.
-/
namespace DocQuery

namespace Value

def wrap (name : String) (body : Json) : Json := .object [(name, body)]

def wrapDouble (x : Binary64) : Json :=
  if x.isFinite then .number (.double x)
  else if x.isNaN && x.negative then wrap "$numberDouble" (.string "-NaN")
  else wrap "$numberDouble" (.string x.naturalText)

def wrapId (id : ObjectId) : Json := wrap "$oid" (.string id.hex)

def wrapBinary (subtype : UInt8) (bytes : List UInt8) : Json :=
  wrap "$binary" (.object
    [("base64", .string (Text.Base64.encode bytes)),
     ("subType", .string (Text.writeHex 2 subtype.toNat))])

def wrapMillis (t : Instant) : Json :=
  wrap "$date" (wrap "$numberLong" (.string (toString t.millis.toInt)))

/-- Moments before 1970 are counted instead of written out. -/
def wrapDate (t : Instant) : Json :=
  match t.rfc3339? with
  | some text => if 0 ≤ t.millis.toInt then wrap "$date" (.string text) else wrapMillis t
  | none => wrapMillis t

mutual
def relaxed : Value → Json
  | .null => .null
  | .undefined => wrap "$undefined" (.bool true)
  | .minKey => wrap "$minKey" (.int 1)
  | .maxKey => wrap "$maxKey" (.int 1)
  | .boolean b => .bool b
  | .int32 n => .int n.toInt
  | .int64 n => .int n.toInt
  | .double x => wrapDouble x
  | .decimal d => wrap "$numberDecimal" (.string d.text)
  | .string s => .string s
  | .symbol s => wrap "$symbol" (.string s)
  | .code s => wrap "$code" (.string s)
  | .scopedCode s scope =>
    .object [("$code", .string s), ("$scope", Json.sorted (relaxedEntries scope))]
  | .regex pattern options =>
    wrap "$regularExpression"
      (.object [("options", .string (sortLetters options)), ("pattern", .string pattern)])
  | .timestamp time increment =>
    wrap "$timestamp" (.object [("i", .int increment.toNat), ("t", .int time.toNat)])
  | .binary subtype bytes => wrapBinary subtype bytes
  | .objectId id => wrapId id
  | .dbPointer collection id =>
    wrap "$dbPointer" (.object [("$id", wrapId id), ("$ref", .string collection)])
  | .dateTime t => wrapDate t
  | .array items => .array (relaxedItems items)
  | .document entries => Json.sorted (relaxedEntries entries)

def relaxedItems : List Value → List Json
  | [] => []
  | v :: rest => relaxed v :: relaxedItems rest

def relaxedEntries : List (String × Value) → List (String × Json)
  | [] => []
  | (k, v) :: rest => (k, relaxed v) :: relaxedEntries rest
end

def jsonText (v : Value) : String := v.relaxed.compact

end Value

namespace Document

def relaxed (d : Document) : Json := Value.relaxed (.document d)

end Document

end DocQuery
