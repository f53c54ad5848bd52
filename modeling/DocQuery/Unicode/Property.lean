import DocQuery.Unicode.Age
import DocQuery.Unicode.Break

/-!
The names by which properties of characters are called: alone, or with a value.
-/
namespace DocQuery.Unicode.Property

def plainLetters (name : List Char) : String :=
  String.ofList
    ((name.filter fun c => c != ' ' && c != '_' && c != '-' && c.toNat < 128).map Char.toLower)

/-- An `is` in front falls away, too, unless only one letter would be left that means otherwise. -/
def normalize (name : String) : String :=
  match name.toList with
  | i :: s :: rest =>
    if i.toLower = 'i' && s.toLower = 's' then
      if plainLetters rest = "c" then "isc" else plainLetters rest
    else plainLetters (i :: s :: rest)
  | letters => plainLetters letters

/-- A property that has no values, else a category, else a script. -/
def named? (name : String) : Option CharSet :=
  let name := normalize name
  Binary.named? name <|> Category.named? name <|> Script.named? name

def valued? (name value : String) : Option CharSet :=
  let value := normalize value
  match normalize name with
  | "gc" | "generalcategory" => Category.named? value
  | "sc" | "script" => Script.named? value
  | "scx" | "scriptextensions" => Script.extension? value
  | "age" => Age.set? value
  | "gcb" | "graphemeclusterbreak" => Break.Grapheme.named? value
  | "wb" | "wordbreak" => Break.Word.named? value
  | "sb" | "sentencebreak" => Break.Sentence.named? value
  | _ => none

end DocQuery.Unicode.Property
