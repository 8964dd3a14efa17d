import Casewise.Regex.Flag
import Casewise.Regex.NamedClass
import Casewise.Regex.Property

/-!
# Regular expressions

The syntax tree of a regular expression.

* `Regex`, `ClassSet` — expressions and the classes in brackets.
* `Regex.depth` — how deep an expression is nested.
-/

namespace Casewise

namespace Regex

/-- A character as it is written. One that is written as a byte, by two hexadecimal digits, may
stand for that byte. -/
structure Literal where
  char : Char
  isByte : Bool := false

/-- A place at the boundary of a word. -/
inductive Boundary where
  /-- the start or the end of a word -/
  | edge
  /-- anywhere else -/
  | inside
  | start
  | finish
  /-- no letter before it -/
  | halfStart
  /-- no letter behind it -/
  | halfFinish
deriving DecidableEq

/-- What holds at a place in a text. -/
inductive Assertion where
  | lineStart
  | lineEnd
  | textStart
  | textEnd
  | boundary (b : Boundary)

/-- How two classes are joined. -/
inductive SetOperator where
  | intersection
  | difference
  | symmetricDifference

/-- A class in brackets, or a part of one. -/
inductive ClassSet where
  | empty
  | literal (l : Literal)
  | range (first last : Literal)
  | named (negated : Bool) (c : NamedClass)
  | property (negated : Bool) (q : PropertyQuery)
  | bracketed (negated : Bool) (s : ClassSet)
  | union (parts : List ClassSet)
  | binary (op : SetOperator) (left right : ClassSet)

end Regex

/-- A regular expression. -/
inductive Regex where
  | empty
  | literal (l : Regex.Literal)
  | dot
  | assertion (a : Regex.Assertion)
  | named (negated : Bool) (c : Regex.NamedClass)
  | property (negated : Bool) (q : Regex.PropertyQuery)
  | bracketed (negated : Bool) (s : Regex.ClassSet)
  /-- changes of flags from here to the end of the group -/
  | flags (changes : Regex.FlagChanges)
  /-- changes of flags for an expression -/
  | group (changes : Regex.FlagChanges) (r : Regex)
  /-- an expression whose match is kept; `index` counts the ones that begin before it, from 1 -/
  | capture (index : Nat) (r : Regex)
  /-- at least `least` times, and at most `most` times if that is given; `marked` swaps whether it
  takes as much as it can -/
  | repetition (least : Nat) (most : Option Nat) (marked : Bool) (r : Regex)
  | concat (parts : List Regex)
  | alternation (branches : List Regex)

namespace Regex

/-! ## Depth -/

namespace ClassSet

mutual

def depth : ClassSet → Nat
  | .empty => 0
  | .literal _ => 0
  | .range _ _ => 0
  | .named _ _ => 0
  | .property _ _ => 0
  | .bracketed _ s => s.depth + 1
  | .union parts => depthOfParts parts + 1
  | .binary _ left right => max left.depth right.depth + 1

def depthOfParts : List ClassSet → Nat
  | [] => 0
  | s :: ss => max s.depth (depthOfParts ss)

end

end ClassSet

mutual

/-- The number of groups, repetitions, brackets, sequences and choices around the innermost part. -/
def depth : Regex → Nat
  | .empty => 0
  | .literal _ => 0
  | .dot => 0
  | .assertion _ => 0
  | .named _ _ => 0
  | .property _ _ => 0
  | .flags _ => 0
  | .bracketed _ s => s.depth + 1
  | .group _ r => r.depth + 1
  | .capture _ r => r.depth + 1
  | .repetition _ _ _ r => r.depth + 1
  | .concat parts => depthOfParts parts + 1
  | .alternation branches => depthOfParts branches + 1

def depthOfParts : List Regex → Nat
  | [] => 0
  | r :: rs => max r.depth (depthOfParts rs)

end

/-- The deepest nesting. -/
def maxDepth : Nat := 250

end Regex

end Casewise
