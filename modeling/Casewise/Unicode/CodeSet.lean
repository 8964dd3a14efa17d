/-!
# Sets of characters

A set of characters is kept as the maximal ranges of its code points. Surrogates are no characters
and lie in no set.

* `CodeSet.ofRanges` — the characters of any ranges.
* `CodeSet.union`, `CodeSet.compl`, `CodeSet.inter`, `CodeSet.diff`, `CodeSet.symmDiff` — the
  operations of sets.
* `CodeSet.ofLines` — the set that a table of this library spells: ranges in hexadecimal, as in
  `41-5a b5 100-136/2`, where the last one stands for every second code point.
-/

namespace Casewise

/-- A set of characters: the first and the last code point of each of its maximal ranges, in
ascending order. -/
structure CodeSet where
  ranges : List (Nat × Nat)
deriving DecidableEq

namespace CodeSet

/-! ## Ranges -/

/-- The parts of a range that are characters. -/
def withoutSurrogates (r : Nat × Nat) : List (Nat × Nat) :=
  [(r.1, min r.2 0xD7FF), (max r.1 0xE000, min r.2 0x10FFFF)].filter fun r => r.1 ≤ r.2

/-- Puts a range behind ranges, the last one first, that begin no later. Ranges that touch are
joined. -/
def append : List (Nat × Nat) → Nat × Nat → List (Nat × Nat)
  | [], r => [r]
  | s :: rs, r => if r.1 ≤ s.2 + 1 then (s.1, max s.2 r.2) :: rs else r :: s :: rs

/-- The characters of ranges in any order. -/
def ofRanges (rs : List (Nat × Nat)) : CodeSet :=
  let sorted := (rs.flatMap withoutSurrogates).mergeSort fun r s => r.1 ≤ s.1
  ⟨(sorted.foldl append []).reverse⟩

/-- The set without characters. -/
def empty : CodeSet := ⟨[]⟩

/-- The characters from the one code point to the other, both included. -/
def range (first last : Nat) : CodeSet := ofRanges [(first, last)]

/-- The set of that one character. -/
def ofChar (c : Char) : CodeSet := ⟨[(c.toNat, c.toNat)]⟩

/-- All characters. -/
def all : CodeSet := range 0 0x10FFFF

/-- Whether there is no character in the set. -/
def isEmpty (s : CodeSet) : Bool := s.ranges.isEmpty

/-- Whether a code point lies in one of the ranges. -/
def contains (s : CodeSet) (code : Nat) : Bool :=
  s.ranges.any fun r => r.1 ≤ code && code ≤ r.2

/-- Whether all characters of a set are ASCII. -/
def isAscii (s : CodeSet) : Bool := s.ranges.all fun r => r.2 < 0x80

/-- The only character of a set, if it has one only. -/
def sole? (s : CodeSet) : Option Char :=
  match s.ranges with
  | [(a, b)] => if a = b then some (Char.ofNat a) else none
  | _ => none

/-! ## Operations -/

/-- The characters of either set. -/
def union (s t : CodeSet) : CodeSet := ofRanges (s.ranges ++ t.ranges)

/-- The union of many sets. -/
def unionAll (ss : List CodeSet) : CodeSet := ofRanges (ss.flatMap CodeSet.ranges)

/-- The code points from `next` on that lie in none of the ranges. -/
def gaps : (next : Nat) → List (Nat × Nat) → List (Nat × Nat)
  | next, [] => [(next, 0x10FFFF)]
  | next, (a, b) :: rs => if next < a then (next, a - 1) :: gaps (b + 1) rs else gaps (b + 1) rs

/-- The characters outside of the set. -/
def compl (s : CodeSet) : CodeSet := ofRanges (gaps 0 s.ranges)

/-- The characters of both sets, by their complements. -/
def inter (s t : CodeSet) : CodeSet := (s.compl.union t.compl).compl

/-- The characters of the first set that are not in the second. -/
def diff (s t : CodeSet) : CodeSet := s.inter t.compl

/-- The characters of exactly one of the sets. -/
def symmDiff (s t : CodeSet) : CodeSet := (s.diff t).union (t.diff s)

/-- The set or, if `negated`, its complement. -/
def negateIf (negated : Bool) (s : CodeSet) : CodeSet := if negated then s.compl else s

/-! ## Tables -/

/-- The value of a hexadecimal digit in lower case. -/
def hexDigit (c : Char) : Nat := if c ≤ '9' then c.toNat - '0'.toNat else c.toNat - 'a'.toNat + 10

/-- The number that hexadecimal digits spell. -/
def ofHex (cs : List Char) : Nat := cs.foldl (fun n c => 16 * n + hexDigit c) 0

/-- The code points from `first` to `last` at a distance of `step`, each as a range. -/
def spaced (first last step : Nat) : List (Nat × Nat) :=
  (List.range ((last - first) / step + 1)).map fun i => (first + step * i, first + step * i)

/-- The code points that one entry of a table stands for, as ranges. -/
def ofEntry (entry : List Char) : List (Nat × Nat) :=
  let first := ofHex (entry.takeWhile (· ≠ '-'))
  match entry.dropWhile (· ≠ '-') with
  | [] => [(first, first)]
  | _ :: rest =>
    let last := ofHex (rest.takeWhile (· ≠ '/'))
    match rest.dropWhile (· ≠ '/') with
    | [] => [(first, last)]
    | _ :: step => spaced first last (ofHex step)

/-- The entries of a table, which blanks separate. -/
def entries : List Char → (entry : List Char) → List (List Char)
  | [], [] => []
  | [], entry => [entry.reverse]
  | c :: cs, entry => if c = ' ' then entry.reverse :: entries cs [] else entries cs (c :: entry)

/-- The set that the lines of a table spell. -/
def ofLines (lines : List String) : CodeSet :=
  ofRanges (lines.flatMap fun line => (entries line.toList []).flatMap ofEntry)

/-- The set that a table of one line spells. -/
def ofTable (line : String) : CodeSet := ofLines [line]

end CodeSet

end Casewise
