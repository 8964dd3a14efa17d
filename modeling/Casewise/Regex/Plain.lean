import Casewise.Regex.Syntax

/-!
# Plain expressions

An expression without flags, whose classes are sets of characters. It is built by functions that
keep it short: no sequence or choice stands directly in another one, neighbouring literals are one,
and a choice among characters is a class.

* `Plain` — the expressions, `Plain.shortest?`, `Plain.longest?` — the lengths of their matches.
* `Plain.ofChars`, `Plain.repeated`, `Plain.sequence`, `Plain.choice` — the functions that build
  them.
-/

namespace Casewise.Regex

/-- What holds at a place in a text, with all that flags decide. -/
inductive Anchor where
  | textStart
  | textEnd
  | lineStart (crlf : Bool)
  | lineEnd (crlf : Bool)
  | boundary (unicode : Bool) (b : Boundary)
deriving DecidableEq

inductive Plain where
  | empty
  | literal (text : List Char)
  | chars (s : CodeSet)
  | anchor (a : Anchor)
  /-- at least `least` times, and at most `most` times if that is given, as often as it can or as
  seldom -/
  | repetition (least : Nat) (most : Option Nat) (greedy : Bool) (r : Plain)
  | capture (index : Nat) (r : Plain)
  | concat (parts : List Plain)
  | alternation (branches : List Plain)

namespace Plain

/-! ## Equality -/

mutual

/-- Whether two expressions are the same. -/
def same : Plain → Plain → Bool
  | .empty, .empty => true
  | .literal text, .literal text' => text == text'
  | .chars s, .chars s' => s == s'
  | .anchor a, .anchor a' => a == a'
  | .repetition least most greedy r, .repetition least' most' greedy' r' =>
    least == least' && most == most' && greedy == greedy' && r.same r'
  | .capture index r, .capture index' r' => index == index' && r.same r'
  | .concat parts, .concat parts' => samePairwise parts parts'
  | .alternation branches, .alternation branches' => samePairwise branches branches'
  | _, _ => false

def samePairwise : List Plain → List Plain → Bool
  | [], [] => true
  | r :: rs, s :: ss => r.same s && samePairwise rs ss
  | _, _ => false

end

/-! ## Lengths -/

mutual

/-- The number of characters in the shortest match; nothing if a class without characters may keep
it from matching at all. -/
def shortest? : Plain → Option Nat
  | .empty => some 0
  | .literal text => some text.length
  | .chars s => if s.isEmpty then none else some 1
  | .anchor _ => some 0
  | .repetition least _ _ r => r.shortest?.map fun n => least * n
  | .capture _ r => r.shortest?
  | .concat parts => shortestOfParts? parts
  | .alternation branches => shortestOfBranches? branches

def shortestOfParts? : List Plain → Option Nat
  | [] => some 0
  | r :: rs => do return (← r.shortest?) + (← shortestOfParts? rs)

def shortestOfBranches? : List Plain → Option Nat
  | [] => none
  | [r] => r.shortest?
  | r :: rs => do return min (← r.shortest?) (← shortestOfBranches? rs)

end

mutual

/-- The number of characters in the longest match; nothing if there is no limit, or if a class
without characters may keep it from matching at all. -/
def longest? : Plain → Option Nat
  | .empty => some 0
  | .literal text => some text.length
  | .chars s => if s.isEmpty then none else some 1
  | .anchor _ => some 0
  | .repetition _ most _ r => do return (← most) * (← r.longest?)
  | .capture _ r => r.longest?
  | .concat parts => longestOfParts? parts
  | .alternation branches => longestOfBranches? branches

def longestOfParts? : List Plain → Option Nat
  | [] => some 0
  | r :: rs => do return (← r.longest?) + (← longestOfParts? rs)

def longestOfBranches? : List Plain → Option Nat
  | [] => none
  | [r] => r.longest?
  | r :: rs => do return max (← r.longest?) (← longestOfBranches? rs)

end

/-- Whether an expression can match the empty text only. -/
def isZeroWidth (r : Plain) : Bool := r.longest? == some 0

/-! ## Classes and repetitions -/

/-- One character of a set. -/
def ofChars (s : CodeSet) : Plain :=
  match s.sole? with
  | some c => .literal [c]
  | none => .chars s

/-- An expression repeated. To match the empty text more than once is to match it once. -/
def repeated (least : Nat) (most : Option Nat) (greedy : Bool) (r : Plain) : Plain :=
  let (least, most) :=
    if r.isZeroWidth then (min least 1, some (min (most.getD 1) 1)) else (least, most)
  if most = some 0 then .empty
  else if least = 1 ∧ most = some 1 then r
  else .repetition least most greedy r

/-! ## Sequences -/

/-- The parts of an expression as a sequence. -/
def parts : Plain → List Plain
  | .empty => []
  | .concat parts => parts
  | r => [r]

/-- A part in front of others. -/
def followedBy : Plain → List Plain → List Plain
  -- rest => :: texts side by side are one text
  | .literal text, .literal text' :: rest => .literal (text ++ text') :: rest
  | r, rest => r :: rest

/-- Expressions one after another. -/
def sequence (rs : List Plain) : Plain :=
  match (rs.flatMap parts).foldr followedBy [] with
  | [] => .empty
  | [r] => r
  | parts => .concat parts

/-! ## Choices -/

/-- The branches of an expression as a choice. -/
def branches : Plain → List Plain
  | .alternation branches => branches
  | r => [r]

/-- The set that an expression with one character stands for. -/
def sole? : Plain → Option CodeSet
  | .literal [c] => some (.ofChar c)
  | _ => none

/-- The set that a class stands for. -/
def class? : Plain → Option CodeSet
  | .chars s => some s
  | _ => none

/-- The parts of a sequence. -/
def concat? : Plain → Option (List Plain)
  | .concat parts => some parts
  | _ => none

/-- A choice among branches that do not begin alike. -/
def choiceApart (rs : List Plain) : Plain :=
  match rs.flatMap branches with
  | [] => .chars .empty
  | [r] => r
  | rs =>
    match rs.mapM sole? <|> rs.mapM class? with
    | some ss => ofChars (.unionAll ss)
    | none => .alternation rs

/-- The parts with which two sequences begin alike. -/
def commonParts : List Plain → List Plain → List Plain
  | r :: rs, s :: ss => if r.same s then r :: commonParts rs ss else []
  | _, _ => []

/-- The parts with which all branches begin. -/
def sharedParts (rs : List Plain) : List Plain :=
  match rs.mapM concat? with
  | some (parts :: others) => others.foldl commonParts parts
  | _ => []

/-- A choice among expressions. Parts with which all branches begin are put in front of it. -/
def choice (rs : List Plain) : Plain :=
  let rs := rs.flatMap branches
  let shared := sharedParts rs
  if shared.isEmpty then choiceApart rs
  else
    let rests := rs.map fun r => sequence (r.parts.drop shared.length)
    sequence (shared ++ [choiceApart rests])

end Plain

end Casewise.Regex
