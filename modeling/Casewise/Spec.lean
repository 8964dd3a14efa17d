import Casewise.Json
import Casewise.Pattern

/-!
# Declared patterns

A `PatternSpec` is a pattern written down as data, for configuration. It has no guards of its own
but a fixed vocabulary of type names, and compares with JSON data.

* `TypeName` — the vocabulary, with its spelling.
* `Pattern.ofJson` — deep partial equality with JSON data: scalars strictly, arrays as templates
  over the first positions, objects as templates over properties.
* `PatternSpec.toPattern` — the pattern that a declaration stands for; there always is one.
-/

namespace Casewise

/-- A named test of the kind of a value. -/
inductive TypeName where
  | string
  | number
  | boolean
  | bigint
  | symbol
  | null
  | undefined
  /-- neither `null` nor `undefined` -/
  | defined
  /-- every value -/
  | unknown
  | record
  | array
  | date
  | error
  | map
  | set
  | function
  | truthy
  | nonEmptyString
deriving DecidableEq

namespace TypeName

/-- All names, in the order of their numbers. -/
def all : List TypeName :=
  [string, number, boolean, bigint, symbol, null, undefined, defined, unknown, record, array, date,
    error, map, set, function, truthy, nonEmptyString]

/-- The spelling of a type name in declarations. -/
def name : TypeName → String
  | .string => "string"
  | .number => "number"
  | .boolean => "boolean"
  | .bigint => "bigint"
  | .symbol => "symbol"
  | .null => "null"
  | .undefined => "undefined"
  | .defined => "defined"
  | .unknown => "unknown"
  | .record => "record"
  | .array => "array"
  | .date => "date"
  | .error => "error"
  | .map => "map"
  | .set => "set"
  | .function => "function"
  | .truthy => "truthy"
  | .nonEmptyString => "nonEmptyString"

/-- The type name with that spelling, if there is one. -/
def ofName? (s : String) : Option TypeName := all.find? fun t => t.name == s

/-- The pattern of a type name. -/
def toPattern {ε : Type} : TypeName → Pattern ε
  | .string => .ofGuard .isString
  | .number => .ofGuard .isNumber
  | .boolean => .ofGuard .isBoolean
  | .bigint => .ofGuard .isBigint
  | .symbol => .ofGuard .isSymbol
  | .null => .null
  | .undefined => .undefined
  | .defined => .defined
  | .unknown => .any
  | .record => .ofGuard .isRecord
  | .array => .array
  | .date => .ofGuard .isDate
  | .error => .ofGuard .isError
  | .map => .ofGuard .isMap
  | .set => .ofGuard .isSet
  | .function => .ofGuard .isFunction
  | .truthy => .ofGuard .isTruthy
  | .nonEmptyString => .ofGuard .isNonEmptyString

end TypeName

namespace Pattern

variable {ε : Type}

mutual

/-- Deep partial equality with JSON data. -/
def ofJson : Json → Pattern ε
  | .null => .literal .null
  | .bool b => .literal (.bool b)
  | .number n => .literal (.number n.toBinary64)
  | .string s => .literal (.string s)
  | .array items => .elements (ofJsonItems items)
  | .object members => .fields (ofJsonMembers members)

/-- The patterns of the items of an array, position by position. -/
def ofJsonItems : List Json → List (Pattern ε)
  | [] => []
  | j :: js => ofJson j :: ofJsonItems js

/-- The patterns of the members of an object, under the same keys. -/
def ofJsonMembers : List (String × Json) → List (PropertyKey × Pattern ε)
  | [] => []
  | (k, j) :: js => (.string k, ofJson j) :: ofJsonMembers js

end

end Pattern

/-- A pattern written down as data. -/
inductive PatternSpec where
  /-- deep partial equality -/
  | equals (j : Json)
  /-- deep partial equality with one of the list -/
  | oneOf (js : List Json)
  | not (s : PatternSpec)
  | type (t : TypeName)
  /-- a string that opens with the text -/
  | startsWith (start : String)
  /-- a template over properties -/
  | fields (fs : List (String × PatternSpec))
  /-- a template over the first positions of an array -/
  | elements (ss : List PatternSpec)
  | allOf (ss : List PatternSpec)
  | anyOf (ss : List PatternSpec)

namespace PatternSpec

variable {ε : Type}

/-- Equality with one of the list: a set of literals if all are scalars, a disjunction of deep
comparisons otherwise. -/
def oneOfPattern (js : List Json) : Pattern ε :=
  match js.mapM Literal.ofJson? with
  | some ls => .oneOf ls
  | none => .anyOf (js.map Pattern.ofJson)

mutual

/-- The pattern that a declaration stands for. -/
def toPattern : PatternSpec → Pattern ε
  | .equals j => .ofJson j
  | .oneOf js => oneOfPattern js
  | .not s => .not s.toPattern
  | .type t => t.toPattern
  | .startsWith start => .startsWith start
  | .fields fs => .fields (toPatternFields fs)
  | .elements ss => .elements (toPatterns ss)
  | .allOf ss => .allOf (toPatterns ss)
  | .anyOf ss => .anyOf (toPatterns ss)

/-- The patterns of declarations, in their order. -/
def toPatterns : List PatternSpec → List (Pattern ε)
  | [] => []
  | s :: ss => s.toPattern :: toPatterns ss

/-- The patterns of the fields of a template, under keys that are strings. -/
def toPatternFields : List (String × PatternSpec) → List (PropertyKey × Pattern ε)
  | [] => []
  | (k, s) :: fs => (.string k, s.toPattern) :: toPatternFields fs

end

end PatternSpec

end Casewise
