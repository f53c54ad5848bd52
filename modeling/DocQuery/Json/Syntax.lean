import DocQuery.Json.Numeral
import DocQuery.Text.Scan

/-!
JSON texts as trees that keep what the text says: numbers as numerals, members in order and
repeated. What such a tree means is decided by who reads it.
-/
namespace DocQuery.Json

/-- What stands between quotes. Half of a surrogate pair is no character, so a string that names one
is no text; it is kept as code points. -/
inductive Quoted where
  | text (s : String)
  | broken (codes : List Nat)

inductive Syntax where
  | null
  | bool (b : Bool)
  | number (n : Numeral)
  | string (s : Quoted)
  | array (items : List Syntax)
  | object (members : List (Option String × Syntax))

namespace Quoted

def text? : Quoted → Option String
  | text s => some s
  | broken _ => none

/-- The bytes of a code point in UTF-8, also of one that is half of a surrogate pair. -/
def codeBytes (n : Nat) : List UInt8 :=
  (if n < 0x80 then [n]
   else if n < 0x800 then [0xC0 + n / 0x40, 0x80 + n % 0x40]
   else if n < 0x10000 then [0xE0 + n / 0x1000, 0x80 + n / 0x40 % 0x40, 0x80 + n % 0x40]
   else [0xF0 + n / 0x40000, 0x80 + n / 0x1000 % 0x40, 0x80 + n / 0x40 % 0x40, 0x80 + n % 0x40]).map
  UInt8.ofNat

def bytes : Quoted → List UInt8
  | text s => s.toUTF8.toList
  | broken codes => codes.flatMap codeBytes

end Quoted

namespace Syntax

def isSpace (c : Char) : Bool := c == ' ' || c == '\n' || c == '\t' || c == '\r'

def unit? (a b c d : Char) : Option Nat := Text.readHex? [a, b, c, d]

def isHigh (u : Nat) : Bool := 0xD800 ≤ u && u ≤ 0xDBFF
def isLow (u : Nat) : Bool := 0xDC00 ≤ u && u ≤ 0xDFFF

def pair (high low : Nat) : Nat := 0x10000 + (high - 0xD800) * 0x400 + (low - 0xDC00)

def plainEscape? : Char → Option Char
  | '"' => some '"'
  | '\\' => some '\\'
  | '/' => some '/'
  | 'b' => some '\x08'
  | 'f' => some '\x0c'
  | 'n' => some '\n'
  | 'r' => some '\r'
  | 't' => some '\t'
  | _ => none

/-- The code points of a string so far, in reverse. A high surrogate waits for its low half. -/
structure Quote where
  reversed : List Nat
  high : Option Nat

def Quote.opened : Quote := ⟨[], none⟩

def Quote.settled (q : Quote) : List Nat := q.high.toList ++ q.reversed

def Quote.push (q : Quote) (c : Char) : Quote := ⟨c.toNat :: q.settled, none⟩

def Quote.pushAlone (q : Quote) (u : Nat) : Quote :=
  if isHigh u then ⟨q.settled, some u⟩ else ⟨u :: q.settled, none⟩

def Quote.pushUnit (q : Quote) (u : Nat) : Quote :=
  match q.high with
  | some h => if isLow u then ⟨pair h u :: q.reversed, none⟩ else q.pushAlone u
  | none => q.pushAlone u

def Quote.close (q : Quote) : Quoted :=
  let codes := q.settled.reverse
  if codes.all Nat.isValidChar then .text (String.ofList (codes.map Char.ofNat)) else .broken codes

def takeString? (q : Quote) : List Char → Option (Quoted × List Char)
  | '"' :: rest => some (q.close, rest)
  | '\\' :: 'u' :: a :: b :: c :: d :: rest =>
    match unit? a b c d with
    | some u => takeString? (q.pushUnit u) rest
    | none => none
  | '\\' :: c :: rest =>
    match plainEscape? c with
    | some e => takeString? (q.push e) rest
    | none => none
  | c :: rest => if c == '\\' || c.toNat < 0x20 then none else takeString? (q.push c) rest
  | [] => none

/-- A container that is being read around the present place: its parts so far in reverse, and for an
object the key whose value is being read. -/
inductive Frame where
  | array (items : List Syntax)
  | object (members : List (Option String × Syntax)) (key : Option String)

inductive Stage where
  | value
  | firstItem
  | firstKey
  | afterItem (items : List Syntax)
  | afterMember (members : List (Option String × Syntax))
  | key (members : List (Option String × Syntax))
  | colon (members : List (Option String × Syntax)) (key : Option String)
  | done (v : Syntax)

structure State where
  frames : List Frame
  stage : Stage

def State.finish (v : Syntax) : List Frame → State
  | [] => ⟨[], .done v⟩
  | .array items :: frames => ⟨frames, .afterItem (v :: items)⟩
  | .object members key :: frames => ⟨frames, .afterMember ((key, v) :: members)⟩

def takeValue? (frames : List Frame) : List Char → Option (State × List Char)
  | '[' :: rest => some (⟨frames, .firstItem⟩, rest)
  | '{' :: rest => some (⟨frames, .firstKey⟩, rest)
  | '"' :: rest =>
    (takeString? .opened rest).map fun (s, rest) => (.finish (.string s) frames, rest)
  | 'n' :: rest =>
    (Scan.after? "ull".toList rest).map fun rest => (.finish .null frames, rest)
  | 't' :: rest =>
    (Scan.after? "rue".toList rest).map fun rest => (.finish (.bool true) frames, rest)
  | 'f' :: rest =>
    (Scan.after? "alse".toList rest).map fun rest => (.finish (.bool false) frames, rest)
  | text => (Numeral.take? text).map fun (n, rest) => (.finish (.number n) frames, rest)

def takeKey? (frames : List Frame) (members : List (Option String × Syntax)) :
    List Char → Option (State × List Char)
  | '"' :: rest =>
    (takeString? .opened rest).map fun (s, rest) =>
      (⟨frames, .colon members s.text?⟩, rest)
  | _ => none

def step (s : State) : List Char → Option (State × List Char)
  | [] => some (s, [])
  | c :: rest =>
    if isSpace c then some (s, rest)
    else match s.stage with
      | .value => takeValue? s.frames (c :: rest)
      | .firstItem =>
        if c == ']' then some (.finish (.array []) s.frames, rest)
        else takeValue? (.array [] :: s.frames) (c :: rest)
      | .firstKey =>
        if c == '}' then some (.finish (.object []) s.frames, rest)
        else takeKey? s.frames [] (c :: rest)
      | .afterItem items =>
        if c == ']' then some (.finish (.array items.reverse) s.frames, rest)
        else if c == ',' then some (⟨.array items :: s.frames, .value⟩, rest)
        else none
      | .afterMember members =>
        if c == '}' then some (.finish (.object members.reverse) s.frames, rest)
        else if c == ',' then some (⟨s.frames, .key members⟩, rest)
        else none
      | .key members => takeKey? s.frames members (c :: rest)
      | .colon members key =>
        if c == ':' then some (⟨.object members key :: s.frames, .value⟩, rest) else none
      | .done _ => none

def read? (text : String) : Option Syntax :=
  match Scan.run step ⟨[], .value⟩ text.toList with
  | some ⟨_, .done v⟩ => some v
  | _ => none

end Syntax

end DocQuery.Json
