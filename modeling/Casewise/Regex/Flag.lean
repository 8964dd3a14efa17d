/-!
# Flags of expressions

What can be switched on and off for a part of a regular expression.

* `Flag` — the flags, with their letters.
* `Flags.after` — the flags that are on after some changes.
-/

namespace Casewise.Regex

/-- A way of reading an expression that can be switched on and off. -/
inductive Flag where
  /-- the case of letters does not count -/
  | ignoreCase
  /-- the signs `^` and `$` stand at the ends of each line -/
  | multiLine
  /-- the dot matches the end of a line, too -/
  | dotAll
  /-- repetitions take as little as they can, and as much as they can if they are marked -/
  | swapGreed
  /-- classes and case are those of Unicode, not of ASCII -/
  | unicode
  /-- a carriage return ends a line, too -/
  | crlf
  /-- blanks and comments do not count -/
  | free
deriving DecidableEq

/-- The flag with a letter. -/
def Flag.ofChar? : Char → Option Flag
  | 'i' => some .ignoreCase
  | 'm' => some .multiLine
  | 's' => some .dotAll
  | 'U' => some .swapGreed
  | 'u' => some .unicode
  | 'R' => some .crlf
  | 'x' => some .free
  | _ => none

/-- Flags that are switched on or off. -/
abbrev FlagChanges := List (Flag × Bool)

/-- The flags that are on. -/
abbrev Flags := List Flag

namespace Flags

/-- The flags that are on at the start of an expression. -/
def initial : Flags := [.unicode]

/-- The flags with that one on or off, the others as they are. -/
def set (flags : Flags) (flag : Flag) (on : Bool) : Flags :=
  if on then flag :: flags else flags.filter (· ≠ flag)

/-- The flags after the changes, made one after the other. -/
def after (flags : Flags) (changes : FlagChanges) : Flags :=
  changes.foldl (fun flags change => flags.set change.1 change.2) flags

end Flags

end Casewise.Regex
