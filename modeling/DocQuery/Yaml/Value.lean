import DocQuery.Number.Literal
import DocQuery.Yaml.Node

/-!
What nodes stand for. Plain text may stand for nothing, for a truth value or for a number; all other
text stands for itself.
-/
namespace DocQuery.Yaml.Node

def nullWords : List String := ["", "~", "null", "Null", "NULL"]

def flagWords : List (String × Bool) :=
  [("true", true), ("True", true), ("TRUE", true), ("false", false), ("False", false),
   ("FALSE", false)]

def dropSign : List Char → List Char
  | '+' :: cs | '-' :: cs => cs
  | cs => cs

def isPadded (cs : List Char) : Bool :=
  match dropSign cs with
  | '0' :: c :: rest => (c :: rest).all Char.isDigit
  | _ => false

def isBased (cs : List Char) : Bool :=
  match dropSign cs with
  | '0' :: 'x' :: digits => (Text.readHex? digits).isSome
  | '0' :: 'o' :: digits => !digits.isEmpty && digits.all fun c => '0' ≤ c && c ≤ '7'
  | '0' :: 'b' :: digits => !digits.isEmpty && digits.all fun c => c == '0' || c == '1'
  | _ => false

def extremeWords : List String :=
  [".inf", ".Inf", ".INF", "+.inf", "+.Inf", "+.INF", "-.inf", "-.Inf", "-.INF", ".nan", ".NaN",
   ".NAN"]

def isNumber (text : String) : Bool :=
  let cs := text.toList
  isBased cs || extremeWords.contains text
    || (!isPadded cs && (Binary64.readDecimal? text).any Binary64.isFinite)

def word? : Node → Option String
  | scalar _ text => some text
  | _ => none

def isNull : Node → Bool
  | scalar true text => nullWords.contains text
  | _ => false

def flag? : Node → Option Bool
  | scalar true text => flagWords.lookup text
  | _ => none

def text? : Node → Option String
  | scalar false text => some text
  | scalar true text =>
    if nullWords.contains text || (flagWords.lookup text).isSome || isNumber text then none
    else some text
  | _ => none

def natural? : Node → Option Nat
  | scalar true text => if isPadded text.toList then none else Text.readNat? text.toList
  | _ => none

/-- Where a collection is expected, no text at all is an empty one. -/
def isEmpty : Node → Bool
  | scalar true "" => true
  | _ => false

def items? : Node → Option (List Node)
  | list items => some items
  | node => if node.isEmpty then some [] else none

def entries? : Node → Option (List (Node × Node))
  | map entries => some entries
  | node => if node.isEmpty then some [] else none

end DocQuery.Yaml.Node
