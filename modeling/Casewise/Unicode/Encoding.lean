import Casewise.Unicode.CodeSet

/-!
# Characters as bytes

A set of characters is a set of strings of bytes, their encoding in UTF-8. A *byte pattern* stands
for all strings that take one byte from each of its ranges.

* `CodeSet.bytePatterns` — patterns that together stand for the characters of a set, each character
  under one of them, in the order of the characters.
-/

namespace Casewise

/-- Ranges of bytes one after another. -/
abbrev BytePattern := List (Nat × Nat)

namespace BytePattern

/-- The range of the bytes behind the first. -/
def tailRange : Nat × Nat := (0x80, 0xBF)

/-- The patterns for the numbers of a range, the last `count` bytes of which hold 6 bits each. The
byte in front holds the other bits above `mark`. -/
def ofRange (mark : Nat) : (count : Nat) → (first last : Nat) → List BytePattern
  | 0, first, last => [[(mark + first, mark + last)]]
  | count + 1, first, last =>
    let block := 1 <<< (6 * (count + 1))
    let inBlock (lead first last : Nat) : List BytePattern :=
      (ofRange tailRange.1 count first last).map fun p => (mark + lead, mark + lead) :: p
    let a := first / block
    let b := last / block
    if a = b then inBlock a (first % block) (last % block)
    else
      let startsBlock := first % block = 0
      let endsBlock := last % block = block - 1
      let before := if startsBlock then [] else inBlock a (first % block) (block - 1)
      let behind := if endsBlock then [] else inBlock b 0 (last % block)
      let a := if startsBlock then a else a + 1
      let b := if endsBlock then b else b - 1
      let whole :=
        if a ≤ b then [(mark + a, mark + b) :: List.replicate (count + 1) tailRange] else []
      before ++ whole ++ behind

/-- The lengths of an encoding: the code points that have it, the mark of the first byte, and the
number of bytes behind it. -/
def lengths : List ((Nat × Nat) × Nat × Nat) :=
  [((0, 0x7F), 0, 0), ((0x80, 0x7FF), 0xC0, 1), ((0x800, 0xFFFF), 0xE0, 2),
   ((0x10000, 0x10FFFF), 0xF0, 3)]

end BytePattern

/-- The patterns of a set. -/
def CodeSet.bytePatterns (s : CodeSet) : List BytePattern :=
  s.ranges.flatMap fun r =>
    BytePattern.lengths.flatMap fun ((first, last), mark, count) =>
      let first := max r.1 first
      let last := min r.2 last
      if first ≤ last then BytePattern.ofRange mark count first last else []

end Casewise
