import DocQuery.Bson.Relaxed

/-!
Texts of values. The natural text is the one that filters compare by: strings as they are, numbers
in their shortest form, dates written out, everything structured as JSON. The log text is for
people.
-/
namespace DocQuery

namespace Value

def naturalText : Value → String
  | .string s | .symbol s => s
  | .int32 n => toString n.toInt
  | .int64 n => toString n.toInt
  | .double x => x.naturalText
  | .boolean b => if b then "true" else "false"
  | .null | .undefined => "null"
  | .dateTime t => t.naturalText
  | .objectId id => id.hex
  | .decimal d => d.text
  | v => v.jsonText

def logDocument (parts : List String) : String :=
  if parts.isEmpty then "\x7b\x7d" else "\x7b " ++ ", ".intercalate parts ++ " \x7d"

mutual
def logText : Value → String
  | .null => "null"
  | .undefined => "undefined"
  | .minKey => "MinKey"
  | .maxKey => "MaxKey"
  | .boolean b => if b then "true" else "false"
  | .int32 n => toString n.toInt
  | .int64 n => toString n.toInt
  | .double x => x.logText
  | .decimal d => d.text
  | .string s => "\"" ++ s ++ "\""
  | .symbol s => "Symbol(\"" ++ s ++ "\")"
  | .code s => s
  | .scopedCode s _ => s
  | .regex pattern options => "/" ++ pattern ++ "/" ++ options
  | .timestamp time increment =>
    "Timestamp(" ++ toString time.toNat ++ ", " ++ toString increment.toNat ++ ")"
  | .binary subtype bytes =>
    "Binary(0x" ++ String.ofList (Nat.toDigits 16 subtype.toNat) ++ ", "
      ++ Text.Base64.encode bytes ++ ")"
  | .objectId id => "ObjectId(\"" ++ id.hex ++ "\")"
  | .dbPointer collection id => "DbPointer(" ++ collection ++ ", " ++ id.hex ++ ")"
  | .dateTime t => "DateTime(\"" ++ t.logText ++ "\")"
  | .array items => "[" ++ ", ".intercalate (logItems items) ++ "]"
  | .document entries => logDocument (logEntries entries)

def logItems : List Value → List String
  | [] => []
  | v :: rest => logText v :: logItems rest

def logEntries : List (String × Value) → List String
  | [] => []
  | (k, v) :: rest => ("\"" ++ k ++ "\": " ++ logText v) :: logEntries rest
end

end Value

namespace Document

def logText (d : Document) : String := Value.logText (.document d)

end Document

end DocQuery
