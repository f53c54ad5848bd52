import DocQuery.Number.Binary64
import DocQuery.Text.Digits

/-!
Reading a floating-point number from decimal text, rounded to the nearest: a sign, digits with a
point anywhere among them, an exponent, or the names of infinity and NaN in any case.
-/
namespace DocQuery.Binary64

def readMagnitude? (text : List Char) : Option Nat := do
  let lower := text.map Char.toLower
  if lower = "inf".toList || lower = "infinity".toList then return infiniteMagnitude
  if lower = "nan".toList then return nan.magnitude
  let mantissa := lower.takeWhile (· != 'e')
  let exponent ← match lower.dropWhile (· != 'e') with
    | [] => some 0
    | _ :: digits => Text.readInt? digits
  let whole := mantissa.takeWhile (· != '.')
  let fraction := (mantissa.dropWhile (· != '.')).drop 1
  return decimalMagnitude (← Text.readNat? (whole ++ fraction)) (exponent - fraction.length)

def readDecimal? (text : String) : Option Binary64 :=
  match text.toList with
  | '-' :: rest => (readMagnitude? rest).map (ofParts true)
  | '+' :: rest => (readMagnitude? rest).map (ofParts false)
  | rest => (readMagnitude? rest).map (ofParts false)

end DocQuery.Binary64
