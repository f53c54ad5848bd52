import DocQuery.Json.Value

/-!
Records in JSON: an object with named fields, or an array with the fields in order. Keys that name
no field are passed over, whatever their values hold.
-/
namespace DocQuery.Json.Syntax

/-- The value of the only member with that key; `none` if there are several. -/
def field? (name : String) (members : List (Option String × Syntax)) : Option (Option Syntax) :=
  match members.filter fun m => m.1 == some name with
  | [] => some none
  | [m] => some (some m.2)
  | _ => none

def fields? (names : List String) : Syntax → Option (List (Option Syntax))
  | .object members =>
    if members.all fun m => m.1.isSome then names.mapM fun name => field? name members else none
  | .array items =>
    if items.length ≤ names.length then
      some (items.map some ++ List.replicate (names.length - items.length) none)
    else none
  | _ => none

def string? : Syntax → Option String
  | .string s => s.text?
  | _ => none

def word? : Syntax → Option UInt64
  | .number n =>
    match n.number? with
    | some (.int k) => if 0 ≤ k then some (UInt64.ofNat k.toNat) else none
    | _ => none
  | _ => none

def optional? {α : Type} (read : Syntax → Option α) : Syntax → Option (Option α)
  | .null => some none
  | s => (read s).map some

def orDefault? {α : Type} (default : α) (read : Syntax → Option α) : Option Syntax → Option α
  | none => some default
  | some s => read s

/-- A name out of a closed set, alone or as the key of an object with the value null. -/
def choice? {α : Type} (read : String → Option α) : Syntax → Option α
  | .string s => s.text?.bind read
  | .object [(key, .null)] => key.bind read
  | _ => none

end DocQuery.Json.Syntax
