import DocQuery.Bson.ExtendedJson
import DocQuery.Criteria.Error

/-!
Values and documents out of JSON that callers hand in.
-/
namespace DocQuery

def Value.ofInput (j : Json) : Except Error Value :=
  match Value.ofJson? j with
  | some v => .ok v
  | none => .error (.invalidArgument .jsonValue)

def Document.ofInput (j : Json) : Except Error Document :=
  match j with
  | .object _ =>
    match Document.ofJson? j with
    | some d => .ok d
    | none => .error (.invalidArgument .jsonObject)
  | _ => .error (.invalidArgument .notAnObject)

def Json.read (text : String) : Except Error Json :=
  match Json.read? text with
  | some j => .ok j
  | none => .error .json

end DocQuery
