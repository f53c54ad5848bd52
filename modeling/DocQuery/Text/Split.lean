/-!
Parts of a text between separators.
-/
namespace DocQuery.Text

def splitList (separator : Char) : List Char → List (List Char)
  | [] => [[]]
  | c :: cs =>
    if c = separator then [] :: splitList separator cs
    else
      match splitList separator cs with
      | [] => [[c]]
      | part :: parts => (c :: part) :: parts

def split (separator : Char) (text : String) : List String :=
  (splitList separator text.toList).map String.ofList

end DocQuery.Text
