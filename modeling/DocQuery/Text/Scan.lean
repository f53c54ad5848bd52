/-!
Reading a text from its start to its end in steps. A step takes some characters off the front and
changes a state; a reading succeeds when the steps use the whole text up.
-/
namespace DocQuery.Scan

variable {σ : Type}

/-- A step takes at least one character, so as many steps as there are characters are enough. -/
def within (step : σ → List Char → Option (σ × List Char)) :
    Nat → σ → List Char → Option σ
  | _, state, [] => some state
  | 0, _, _ :: _ => none
  | steps + 1, state, c :: text =>
    match step state (c :: text) with
    | some (next, rest) => within step steps next rest
    | none => none

def run (step : σ → List Char → Option (σ × List Char)) (state : σ) (text : List Char) : Option σ :=
  within step text.length state text

def until? {α : Type} (step : σ → List Char → Option ((σ ⊕ α) × List Char)) :
    Nat → σ → List Char → Option (α × List Char)
  | 0, _, _ => none
  | steps + 1, state, text =>
    match step state text with
    | some (.inl next, rest) => until? step steps next rest
    | some (.inr result, rest) => some (result, rest)
    | none => none

def after? : List Char → List Char → Option (List Char)
  | [], text => some text
  | w :: word, c :: text => if w = c then after? word text else none
  | _ :: _, [] => none

end DocQuery.Scan
