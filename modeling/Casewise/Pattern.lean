import Casewise.Literal
import Casewise.Predicate.Guards
import Casewise.Predicate.Refinement

/-!
# Patterns

A pattern says what an input must look like. Literals compare strictly, guards are arbitrary
predicates, and two kinds of template look inside a value: `fields` at listed properties and
`elements` at the first positions of an array. Both are open: what they do not list may be
anything.

The functions of this module are the vocabulary in which patterns are written down.
-/

namespace Casewise

/-- What an input must look like. Guards emit events of type `ε`. -/
inductive Pattern (ε : Type) where
  /-- every input -/
  | any
  /-- every input but `undefined` and `null` -/
  | defined
  /-- strict equality -/
  | literal (l : Literal)
  /-- strict equality with one of the literals -/
  | oneOf (ls : List Literal)
  | guard (p : Predicate ε Value)
  | not (p : Pattern ε)
  | allOf (ps : List (Pattern ε))
  | anyOf (ps : List (Pattern ε))
  /-- listed properties match, others are ignored -/
  | fields (fs : List (PropertyKey × Pattern ε))
  /-- listed positions match, further items are ignored -/
  | elements (ps : List (Pattern ε))

namespace Pattern

variable {ε : Type}

/-- The guard `g` as a pattern. -/
def ofGuard (g : Guard) : Pattern ε := .guard (.guard g)

/-- A refinement as a pattern: whatever it has a view of. -/
def refine {β : Type} (r : Refinement Value β) : Pattern ε := .guard r.toPredicate

/-- `null` and nothing else; a literal, not a guard. -/
def null : Pattern ε := .literal .null

/-- `undefined` and nothing else. Where missing properties are tested as `undefined`, it accepts
those. -/
def undefined : Pattern ε := .literal .undefined

/-- Every string. -/
def string : Pattern ε := ofGuard .isString

/-- Every double, NaN and the infinities included. -/
def number : Pattern ε := ofGuard .isNumber

/-- Both Booleans. -/
def boolean : Pattern ε := ofGuard .isBoolean

/-- Every big integer. -/
def bigint : Pattern ε := ofGuard .isBigint

/-- Every symbol. -/
def symbol : Pattern ε := ofGuard .isSymbol

/-- Every date. -/
def date : Pattern ε := ofGuard .isDate

/-- Every object, of whatever class, and every error. -/
def record : Pattern ε := ofGuard .isRecord

/-- Every array. The test is made for the pattern; the guards of the vocabulary have none for it. -/
def array : Pattern ε := .guard (.ofBool fun v => v.kind == .array)

/-- Every function. -/
def function : Pattern ε := ofGuard .isFunction

/-- Every string that has a character. -/
def nonEmptyString : Pattern ε := ofGuard .isNonEmptyString

/-- Whether the characters of `start` open the string `s`. -/
def opens (start s : String) : Bool := start.toList.isPrefixOf s.toList

/-- A string that opens with `start`. -/
def startsWith (start : String) : Pattern ε :=
  .guard (.ofBool fun v => v.text?.any (opens start))

/-- A compound of the class `name`. -/
def instanceOf (name : String) : Pattern ε := .guard (.instanceOf name)

/-- The property `field` strictly equals one of `tags`. -/
def tagged (field : String) (tags : List Literal) : Pattern ε :=
  .fields [(.string field, .oneOf tags)]

/-- The property `field` is a string that opens with `start`. -/
def taggedWithStart (field start : String) : Pattern ε :=
  .fields [(.string field, startsWith start)]

end Pattern

end Casewise
