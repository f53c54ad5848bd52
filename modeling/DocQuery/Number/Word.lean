/-!
Limits of machine words, and powers of ten.
-/
namespace DocQuery.Word

def fitsInt32 (n : Int) : Bool := -0x80000000 ≤ n && n < 0x80000000

def fitsInt64 (n : Int) : Bool := -0x8000000000000000 ≤ n && n < 0x8000000000000000

def fitsWord32 (n : Int) : Bool := 0 ≤ n && n < 0x100000000

def maxInt32 : Nat := 0x7FFFFFFF
def maxWord32 : Nat := 0xFFFFFFFF
def maxInt64 : Nat := 0x7FFFFFFFFFFFFFFF
def maxWord64 : Nat := 0xFFFFFFFFFFFFFFFF

end DocQuery.Word

namespace DocQuery

def tenTo (k : Nat) : Nat := Nat.pow 10 k

end DocQuery
