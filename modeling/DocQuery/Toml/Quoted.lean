import DocQuery.Text.Digits

/-!
Strings of TOML: with escapes or literal, on one line or as a block of lines. Each reader starts
after the opening quotes and returns the text and what follows the closing ones.
-/
namespace DocQuery.Toml.Quoted

def isBlank (c : Char) : Bool := c == ' ' || c == '\t'

def isControl (c : Char) : Bool := (c.toNat < 0x20 && c != '\t') || c.toNat == 0x7F

def finish (reversed : List Char) : String := String.ofList reversed.reverse

def ofScalar? (n : Nat) : Option Char :=
  if n.isValidChar then some (Char.ofNat n) else none

def plainEscape? : Char → Option Char
  | '"' => some '"'
  | '\\' => some '\\'
  | 'b' => some '\x08'
  | 'e' => some '\x1b'
  | 'f' => some '\x0c'
  | 'n' => some '\n'
  | 'r' => some '\r'
  | 't' => some '\t'
  | _ => none

def takeLiteral? (reversed : List Char) : List Char → Option (String × List Char)
  | '\'' :: rest => some (finish reversed, rest)
  | c :: rest => if isControl c then none else takeLiteral? (c :: reversed) rest
  | [] => none

def takeBasic? (reversed : List Char) : List Char → Option (String × List Char)
  | '"' :: rest => some (finish reversed, rest)
  | '\\' :: 'x' :: a :: b :: rest =>
    match (Text.readHex? [a, b]).bind ofScalar? with
    | some e => takeBasic? (e :: reversed) rest
    | none => none
  | '\\' :: 'u' :: a :: b :: c :: d :: rest =>
    match (Text.readHex? [a, b, c, d]).bind ofScalar? with
    | some e => takeBasic? (e :: reversed) rest
    | none => none
  | '\\' :: 'U' :: a :: b :: c :: d :: e :: f :: g :: h :: rest =>
    match (Text.readHex? [a, b, c, d, e, f, g, h]).bind ofScalar? with
    | some e => takeBasic? (e :: reversed) rest
    | none => none
  | '\\' :: c :: rest =>
    match plainEscape? c with
    | some e => takeBasic? (e :: reversed) rest
    | none => none
  | c :: rest => if isControl c || c == '\\' then none else takeBasic? (c :: reversed) rest
  | [] => none

/-- A line break right after the opening quotes of a block does not count. -/
def afterBreak : List Char → List Char
  | '\n' :: rest => rest
  | '\r' :: '\n' :: rest => rest
  | cs => cs

/-- Up to two quotes may stand right before the closing three. Line breaks stay as they are
written. -/
def takeLiteralBlock? (reversed : List Char) : List Char → Option (String × List Char)
  | '\'' :: '\'' :: '\'' :: '\'' :: '\'' :: rest =>
    some (finish ('\'' :: '\'' :: reversed), rest)
  | '\'' :: '\'' :: '\'' :: '\'' :: rest => some (finish ('\'' :: reversed), rest)
  | '\'' :: '\'' :: '\'' :: rest => some (finish reversed, rest)
  | '\r' :: '\n' :: rest => takeLiteralBlock? ('\n' :: '\r' :: reversed) rest
  | c :: rest =>
    if isControl c && c != '\n' then none else takeLiteralBlock? (c :: reversed) rest
  | [] => none

def endsLine (cs : List Char) : Bool :=
  match cs.dropWhile isBlank with
  | '\n' :: _ | '\r' :: '\n' :: _ => true
  | _ => false

/-- A backslash at the end of a line joins it to the next text; while `joining`, white space is
passed over. -/
def takeBasicBlock? (joining : Bool) (reversed : List Char) :
    List Char → Option (String × List Char)
  | '"' :: '"' :: '"' :: '"' :: '"' :: rest => some (finish ('"' :: '"' :: reversed), rest)
  | '"' :: '"' :: '"' :: '"' :: rest => some (finish ('"' :: reversed), rest)
  | '"' :: '"' :: '"' :: rest => some (finish reversed, rest)
  | '\\' :: 'x' :: a :: b :: rest =>
    match (Text.readHex? [a, b]).bind ofScalar? with
    | some e => takeBasicBlock? false (e :: reversed) rest
    | none => none
  | '\\' :: 'u' :: a :: b :: c :: d :: rest =>
    match (Text.readHex? [a, b, c, d]).bind ofScalar? with
    | some e => takeBasicBlock? false (e :: reversed) rest
    | none => none
  | '\\' :: 'U' :: a :: b :: c :: d :: e :: f :: g :: h :: rest =>
    match (Text.readHex? [a, b, c, d, e, f, g, h]).bind ofScalar? with
    | some e => takeBasicBlock? false (e :: reversed) rest
    | none => none
  | '\\' :: c :: rest =>
    if endsLine (c :: rest) then
      if c == '\r' then takeBasicBlock? true reversed (rest.drop 1)
      else takeBasicBlock? true reversed rest
    else
      match plainEscape? c with
      | some e => takeBasicBlock? false (e :: reversed) rest
      | none => none
  | '\r' :: '\n' :: rest =>
    takeBasicBlock? joining (if joining then reversed else '\n' :: '\r' :: reversed) rest
  | c :: rest =>
    if joining && (isBlank c || c == '\n') then takeBasicBlock? true reversed rest
    else if (isControl c && c != '\n') || c == '\\' then none
    else takeBasicBlock? false (c :: reversed) rest
  | [] => none
termination_by cs => cs.length
decreasing_by all_goals simp only [List.length_cons, List.length_drop]; omega

end DocQuery.Toml.Quoted
