import Casewise.Regex.Plain
import Casewise.Unicode.Casing

/-!
# The plain form of an expression

What an expression stands for when the flags that hold at each place are taken into account. All
that it matches has to be text: while Unicode is switched off, whatever could match a byte above
ASCII is refused, and so is a property that there is not.

* `ClassSet.chars?` — the characters of a class in brackets.
* `Regex.resolve?` — the plain form of an expression, given the flags that hold before it, and the
  flags that hold behind it.
* `Regex.plain?` — the plain form of an expression on its own.
-/

namespace Casewise.Regex

/-! ## Sets -/

namespace Flags

/-- Whether classes and case are those of Unicode. -/
def unicode (flags : Flags) : Bool := flags.contains .unicode

/-- A set and, if case does not count, all characters that differ from one of its own in case. -/
def fold (flags : Flags) (s : CodeSet) : CodeSet :=
  if flags.contains .ignoreCase then
    if flags.unicode then Unicode.foldCase s else Unicode.foldAsciiCase s
  else s

/-- A set or its complement; that is not ASCII. -/
def negateIf? (flags : Flags) (negated : Bool) (s : CodeSet) : Option CodeSet :=
  if negated && !flags.unicode then none else some (s.negateIf negated)

end Flags

namespace NamedClass

/-- The characters of a class. Digits, blanks and letters are closed under changes of case. -/
def resolve? (c : NamedClass) (flags : Flags) (negated : Bool) : Option CodeSet :=
  let s := c.chars flags.unicode
  match c with
  | .ascii _ => flags.negateIf? negated (flags.fold s)
  | _ => flags.negateIf? negated s

end NamedClass

namespace PropertyQuery

/-- The characters with a property, or without it. -/
def resolve? (q : PropertyQuery) (flags : Flags) (negated : Bool) : Option CodeSet :=
  if flags.unicode then do flags.negateIf? negated (flags.fold (← q.chars?)) else none

end PropertyQuery

namespace SetOperator

def apply : SetOperator → CodeSet → CodeSet → CodeSet
  | .intersection, s, t => s.inter t
  | .difference, s, t => s.diff t
  | .symmetricDifference, s, t => s.symmDiff t

end SetOperator

namespace Literal

/-- Outside of brackets a character always matches text, unless it stands for a byte that is not
ASCII. -/
def isText (l : Literal) (flags : Flags) : Bool :=
  flags.unicode || !l.isByte || l.char.toNat < 0x80

/-- In brackets all characters stand for bytes while Unicode is switched off. -/
def codeInClass? (l : Literal) (flags : Flags) : Option Nat :=
  if flags.unicode || l.char.toNat < 0x80 then some l.char.toNat else none

/-- A character outside of brackets. -/
def resolve? (l : Literal) (flags : Flags) : Option Plain :=
  if l.isText flags then some (.ofChars (flags.fold (.ofChar l.char))) else none

end Literal

namespace ClassSet

mutual

/-- The characters of a class. -/
def chars? (flags : Flags) : ClassSet → Option CodeSet
  | .empty => some .empty
  | .literal l => do
    let code ← l.codeInClass? flags
    return .range code code
  | .range first last => do return .range (← first.codeInClass? flags) (← last.codeInClass? flags)
  | .named negated c => c.resolve? flags negated
  | .property negated q => q.resolve? flags negated
  | .bracketed negated s => do flags.negateIf? negated (flags.fold (← s.chars? flags))
  | .union parts => do return .unionAll (← charsOfParts? flags parts)
  | .binary op left right => do
    return op.apply (flags.fold (← left.chars? flags)) (flags.fold (← right.chars? flags))

def charsOfParts? (flags : Flags) : List ClassSet → Option (List CodeSet)
  | [] => some []
  | s :: ss => do return (← s.chars? flags) :: (← charsOfParts? flags ss)

end

end ClassSet

/-! ## Expressions -/

/-- The characters that the dot stands for. -/
def dotChars (flags : Flags) : CodeSet :=
  if flags.contains .dotAll then .all
  else if flags.contains .crlf then (CodeSet.ofTable "a d").compl
  else (CodeSet.ofTable "a").compl

namespace Assertion

def resolve (flags : Flags) : Assertion → Anchor
  | .lineStart =>
    if flags.contains .multiLine then .lineStart (flags.contains .crlf) else .textStart
  | .lineEnd => if flags.contains .multiLine then .lineEnd (flags.contains .crlf) else .textEnd
  | .textStart => .textStart
  | .textEnd => .textEnd
  | .boundary b => .boundary flags.unicode b

end Assertion

mutual

/-- The plain form of an expression, and the flags behind it. -/
def resolve? (flags : Flags) : Regex → Option (Plain × Flags)
  | .empty => some (.empty, flags)
  | .literal l => do return (← l.resolve? flags, flags)
  | .dot => if flags.unicode then some (.ofChars (dotChars flags), flags) else none
  | .assertion a => some (.anchor (a.resolve flags), flags)
  | .named negated c => do return (.ofChars (← c.resolve? flags negated), flags)
  | .property negated q => do return (.ofChars (← q.resolve? flags negated), flags)
  | .bracketed negated s => do
    return (.ofChars (← (ClassSet.bracketed negated s).chars? flags), flags)
  | .flags changes => some (.empty, flags.after changes)
  | .group changes r => do
    let (r, _) ← r.resolve? (flags.after changes)
    return (r, flags)
  | .capture index r => do
    let (r, _) ← r.resolve? flags
    return (.capture index r, flags)
  | .repetition least most marked r => do
    let (r, _) ← r.resolve? flags
    -- a mark swaps what the flag says
    let greedy := marked == flags.contains .swapGreed
    return (.repeated least most greedy r, flags)
  | .concat parts => do
    let (rs, flags) ← resolveParts? flags parts
    return (.sequence rs, flags)
  | .alternation branches => do
    let (rs, flags) ← resolveParts? flags branches
    return (.choice rs, flags)

def resolveParts? (flags : Flags) : List Regex → Option (List Plain × Flags)
  | [] => some ([], flags)
  | r :: rs => do
    let (r, flags) ← r.resolve? flags
    let (rs, flags) ← resolveParts? flags rs
    return (r :: rs, flags)

end

/-- The plain form of an expression on its own. -/
def plain? (r : Regex) : Option Plain := do return (← r.resolve? .initial).1

end Casewise.Regex
