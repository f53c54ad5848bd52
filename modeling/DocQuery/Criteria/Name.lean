import DocQuery.Bson.Text
import DocQuery.Criteria.Error

/-!
Names of fields and order keys: any text but the empty one.
-/
namespace DocQuery

structure Name where
  text : String
  nonempty : text ≠ ""
deriving DecidableEq

namespace Name

def ofText (role : NameRole) (text : String) : Except Error Name :=
  if h : text = "" then .error (.invalidArgument (.emptyName role)) else .ok ⟨text, h⟩

def ofValue (role : NameRole) (v : Value) : Except Error Name := ofText role v.naturalText

theorem ofText_text (role : NameRole) (n : Name) : ofText role n.text = .ok n := by
  simp [ofText, n.nonempty]

end Name

end DocQuery
