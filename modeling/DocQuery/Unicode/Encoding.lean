import DocQuery.Unicode.CharSet

/-!
Characters as bytes: a first byte, which shows how many follow, and following bytes of six bits
each. The encodings of an interval of characters are described by rows of byte ranges, in which
every choice of a byte from each range is an encoding.
-/
namespace DocQuery.Unicode

abbrev ByteRange := Nat × Nat

def followMark : Nat := 0x80

/-- The rows for the numbers from `low` to `high`. The first byte is marked by `mark`, and `blocks`
says how many numbers share each byte but the last. -/
def byteRows (mark : Nat) : List Nat → Nat → Nat → List (List ByteRange)
  | [], low, high => [[(mark + low, mark + high)]]
  | block :: blocks, low, high =>
    let sharing (first low high : Nat) : List (List ByteRange) :=
      (byteRows followMark blocks low high).map fun row => (mark + first, mark + first) :: row
    let a := low / block
    let b := high / block
    if a = b then sharing a (low % block) (high % block)
    else
      let cutsFirst := low % block != 0
      let cutsLast := high % block != block - 1
      let a' := if cutsFirst then a + 1 else a
      let b' := if cutsLast then b - 1 else b
      let whole := (block :: blocks).map fun _ => (followMark, followMark + 63)
      (if cutsFirst then sharing a (low % block) (block - 1) else []) ++
        (if a' ≤ b' then [(mark + a', mark + b') :: whole] else []) ++
        (if cutsLast then sharing b 0 (high % block) else [])

structure EncodingClass where
  low : Nat
  high : Nat
  mark : Nat
  blocks : List Nat

def EncodingClass.all : List EncodingClass :=
  [⟨0, 0x7F, 0, []⟩, ⟨0x80, 0x7FF, 0xC0, [64]⟩, ⟨0x800, 0xD7FF, 0xE0, [4096, 64]⟩,
   ⟨0xE000, 0xFFFF, 0xE0, [4096, 64]⟩, ⟨0x10000, 0x10FFFF, 0xF0, [262144, 4096, 64]⟩]

def encodingRows (interval : Nat × Nat) : List (List ByteRange) :=
  EncodingClass.all.flatMap fun c =>
    let low := max c.low interval.1
    let high := min c.high interval.2
    if low ≤ high then byteRows c.mark c.blocks low high else []

end DocQuery.Unicode

namespace DocQuery.CharSet

def encodingRows (s : CharSet) : List (List Unicode.ByteRange) :=
  s.intervals.flatMap Unicode.encodingRows

end DocQuery.CharSet
