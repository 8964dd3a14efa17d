import Casewise.Predicate
import Casewise.Value

/-!
# Guards

The vocabulary of tests that classify a value. `Guard` lists those without a parameter, each with
its name and its test; the predicates below take one.

* `Guard.all`, `Guard.name` — the guards in order, and their names.
* `Guard.holds` — the test of a guard.
* `Predicate.hasProperty`, `Predicate.isTaggedBy`, `Predicate.isTagged`, `Predicate.instanceOf`,
  `Predicate.isTupleOf`, `Predicate.isTupleOfAtLeast` — guards with a parameter.
-/

namespace Casewise

/-- A test of a value without a parameter. -/
inductive Guard where
  | isString
  | isNumber
  | isBoolean
  | isBigint
  | isSymbol
  | isFunction
  | isUndefined
  | isNotUndefined
  | isNull
  | isNotNull
  | isNullable
  | isNotNullable
  | isNever
  | isUnknown
  | isObject
  | isSet
  | isMap
  | isDate
  | isError
  | isRegexp
  | isUint8Array
  | isIterable
  | isRecord
  | isReadonlyRecord
  | isTruthy
  | isNonEmptyString
deriving DecidableEq

namespace Guard

/-- All guards, in the order in which they are listed for a value. -/
def all : List Guard :=
  [isString, isNumber, isBoolean, isBigint, isSymbol, isFunction, isUndefined, isNotUndefined,
    isNull, isNotNull, isNullable, isNotNullable, isNever, isUnknown, isObject, isSet,
    isMap, isDate, isError, isRegexp, isUint8Array, isIterable, isRecord, isReadonlyRecord,
    isTruthy, isNonEmptyString]

/-- The name under which a guard is listed. -/
def name : Guard → String
  | .isString => "is_string"
  | .isNumber => "is_number"
  | .isBoolean => "is_boolean"
  | .isBigint => "is_bigint"
  | .isSymbol => "is_symbol"
  | .isFunction => "is_function"
  | .isUndefined => "is_undefined"
  | .isNotUndefined => "is_not_undefined"
  | .isNull => "is_null"
  | .isNotNull => "is_not_null"
  | .isNullable => "is_nullable"
  | .isNotNullable => "is_not_nullable"
  | .isNever => "is_never"
  | .isUnknown => "is_unknown"
  | .isObject => "is_object"
  | .isSet => "is_set"
  | .isMap => "is_map"
  | .isDate => "is_date"
  | .isError => "is_error"
  | .isRegexp => "is_regexp"
  | .isUint8Array => "is_uint8_array"
  | .isIterable => "is_iterable"
  | .isRecord => "is_record"
  | .isReadonlyRecord => "is_readonly_record"
  | .isTruthy => "is_truthy"
  | .isNonEmptyString => "is_non_empty_string"

/-- The guard listed under that name, if there is one. -/
def ofName? (s : String) : Option Guard := all.find? fun g => g.name == s

/-- The test that a guard stands for. -/
def holds : Guard → Value → Bool
  | .isString, v => v.kind == .string
  | .isNumber, v => v.kind == .number
  | .isBoolean, v => v.kind == .bool
  | .isBigint, v => v.kind == .bigint
  | .isSymbol, v => v.kind == .symbol
  | .isFunction, v => v.kind == .function
  | .isUndefined, v => v.kind == .undefined
  | .isNotUndefined, v => v.kind != .undefined
  | .isNull, v => v.kind == .null
  | .isNotNull, v => v.kind != .null
  | .isNullable, v => v.isNullish
  | .isNotNullable, v => !v.isNullish
  | .isNever, _ => false
  | .isUnknown, _ => true
  | .isObject, v => v.isObjectLike || v.kind == .array || v.kind == .function
  | .isSet, v => v.kind == .set
  | .isMap, v => v.kind == .map
  | .isDate, v => v.kind == .date
  | .isError, v => v.kind == .error
  | .isRegexp, v => v.kind == .regexp
  | .isUint8Array, v => v.kind == .bytes
  | .isIterable, v => [Kind.string, .array, .map, .set, .bytes].contains v.kind
  | .isRecord, v => v.kind == .object || v.kind == .error
  | .isReadonlyRecord, v => v.kind == .object || v.kind == .error
  | .isTruthy, v => v.isTruthy
  | .isNonEmptyString, v => v.text?.any fun s => !s.isEmpty

end Guard

namespace Predicate

variable {ε : Type}

/-- A guard as a predicate; it leaves no trace. -/
def guard (g : Guard) : Predicate ε Value := ofBool g.holds

/-- An array of exactly that many items. -/
def isTupleOf (n : Nat) : Predicate ε Value := ofBool (·.isTupleOf n)

/-- An array of that many items or more. -/
def isTupleOfAtLeast (n : Nat) : Predicate ε Value := ofBool (·.isTupleOfAtLeast n)

/-- A value that has the property `key`, whatever stands there. -/
def hasProperty (key : PropertyKey) : Predicate ε Value := ofBool (·.hasProperty key)

/-- A value whose property `field` is the string `tag`. -/
def isTaggedBy (field tag : String) : Predicate ε Value :=
  ofBool fun v => ((v.property? (.string field)).bind Value.text?).any (· == tag)

/-- A value that carries the tag in the default field. -/
def isTagged (tag : String) : Predicate ε Value := isTaggedBy "_tag" tag

/-- A compound of the class `name`. Every error is also an `Error`, and every compound an
`Object`. -/
def instanceOf (name : String) : Predicate ε Value :=
  ofBool fun v =>
    v.className? == Option.some name || (name == "Error" && Guard.isError.holds v) ||
      (name == "Object" && Guard.isObject.holds v)

end Predicate

end Casewise
