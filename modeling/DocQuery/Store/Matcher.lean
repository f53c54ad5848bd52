import DocQuery.Pattern.Reader
import DocQuery.Store.Predicate

/-!
Matchers: a predicate whose patterns have been read. Reading them first tells a bad pattern before
any document is looked at.
-/
namespace DocQuery

namespace Predicate

mutual
/-- The texts under `$regex` at any depth, in order. -/
def patterns : List (String × Value) → List String
  | [] => []
  | (key, v) :: rest => patternsUnder key v ++ patterns rest

def patternsUnder (key : String) : Value → List String
  | .string text => if key = "$regex" then [text] else []
  | .document d => patterns d
  | .array items => itemPatterns items
  | _ => []

/-- Only documents in an array are looked into. -/
def itemPatterns : List Value → List String
  | [] => []
  | .document d :: rest => patterns d ++ itemPatterns rest
  | _ :: rest => itemPatterns rest
end

def onDemand : Resolver := fun text =>
  match Pattern.read? text with
  | some p => .ok p
  | none => .error (.invalidShape (.pattern text))

end Predicate

structure Matcher where
  predicate : Document
  patterns : List (String × Pattern)

namespace Matcher

def readAll (read : Predicate.Resolver) (known : List (String × Pattern)) :
    List String → Except Error (List (String × Pattern))
  | [] => .ok known
  | text :: rest =>
    match known.lookup text with
    | some _ => readAll read known rest
    | none => do
      let p ← read text
      readAll read (known ++ [(text, p)]) rest

def ofPredicate (predicate : Document) : Except Error Matcher := do
  return ⟨predicate, ← readAll Predicate.onDemand [] (Predicate.patterns predicate)⟩

def resolve (m : Matcher) : Predicate.Resolver := fun text =>
  match m.patterns.lookup text with
  | some p => .ok p
  | none => .error (.internal (.patternNotCompiled text))

def holds (m : Matcher) (d : Document) : Except Error Bool :=
  Predicate.entriesHold m.resolve d m.predicate

end Matcher

namespace Document

def satisfies (d predicate : Document) : Except Error Bool := do
  (← Matcher.ofPredicate predicate).holds d

end Document

end DocQuery
