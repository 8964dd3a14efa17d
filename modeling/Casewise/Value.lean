import Casewise.Instant
import Casewise.Number.Binary64
import Casewise.OrderedMap
import Casewise.Symbol

/-!
# Values

`Value` is the shape-agnostic input that patterns and predicates look at: primitives (undefined,
null, booleans, numbers, big integers, strings, symbols) and compounds (arrays, objects, maps,
sets, dates, errors, regular expressions, bytes, functions).

* `Record` — properties in insertion order together with an optional class name. An object and an
  error are each a `Record Value`.
* `Value.property?`, `Value.get` — a property of an object or an error; nothing else has any.
* `Value.typeName`, `Value.className?` — the two classifications of a value.
* `Value.isObjectLike` — the compounds that a template over properties may accept.
-/

namespace Casewise

/-- A key of a property: a string or a symbol. -/
inductive PropertyKey where
  | string (text : String)
  | symbol (symbol : Symbol)

namespace PropertyKey

/-- Two keys are one key if they are equal strings or symbols of one identity; a string is never
the key that a symbol is. -/
instance : BEq PropertyKey where
  beq
    | .string a, .string b => a == b
    | .symbol a, .symbol b => a == b
    | _, _ => false

instance : EquivBEq PropertyKey where
  rfl {a} := by cases a <;> simp [BEq.beq]
  symm {a b} := by cases a <;> cases b <;> simp +contextual [BEq.beq]
  trans {a b c} := by cases a <;> cases b <;> cases c <;> simp +contextual [BEq.beq]

/-- The text of a key that is a string. -/
def text? : PropertyKey → Option String
  | .string s => some s
  | .symbol _ => none

/-- A string as it is, a symbol in brackets. -/
def display : PropertyKey → String
  | .string s => s
  | .symbol s => "[" ++ s.display ++ "]"

end PropertyKey

/-- Properties in insertion order, and the name of a class unless the record is plain. -/
structure Record (ν : Type) where
  className : Option String := none
  props : List (PropertyKey × ν) := []

namespace Record

variable {ν : Type}

/-- The property under `key`. -/
def get? (r : Record ν) (key : PropertyKey) : Option ν := OrderedMap.get? r.props key

/-- Whether something stands under `key`, be it `undefined`. -/
def contains (r : Record ν) (key : PropertyKey) : Bool := OrderedMap.contains r.props key

/-- Puts `value` under `key`; the class stays. -/
def insert (r : Record ν) (key : PropertyKey) (value : ν) : Record ν :=
  { r with props := OrderedMap.insert r.props key value }

/-- Puts `value` under `key`, and gives what stood there before. -/
def exchange (r : Record ν) (key : PropertyKey) (value : ν) : Option ν × Record ν :=
  (r.get? key, r.insert key value)

/-- The plain record of these entries, inserted in turn. -/
def ofList (entries : List (PropertyKey × ν)) : Record ν := ⟨none, OrderedMap.ofList entries⟩

/-- The keys in the order of their first insertion. -/
def keys (r : Record ν) : List PropertyKey := OrderedMap.keys r.props

/-- The number of properties. -/
def size (r : Record ν) : Nat := r.props.length

/-- Whether the record has no properties. -/
def isEmpty (r : Record ν) : Bool := r.props.isEmpty

end Record

/-- What a function value computes from its arguments. -/
inductive FunctionBody where
  /-- answers `undefined`, whatever the arguments -/
  | nothing
  /-- the first argument, `undefined` without arguments -/
  | firstArgument
  /-- the number of arguments -/
  | argumentCount
  /-- the array of all arguments -/
  | argumentList

/-- A function as a value: it is told from others by its identity alone. -/
structure FunctionValue where
  id : Nat
  name : String
  body : FunctionBody

/-- A dynamically shaped value. -/
inductive Value where
  | undefined
  | null
  | bool (b : Bool)
  | number (x : Binary64)
  | bigint (n : Int)
  | string (s : String)
  | symbol (s : Symbol)
  | array (items : List Value)
  | object (r : Record Value)
  | map (entries : List (Value × Value))
  | set (items : List Value)
  | date (i : Instant)
  /-- an error, whose `name` and `message` are ordinary properties -/
  | error (r : Record Value)
  | regexp (source : String)
  | bytes (content : List UInt8)
  | function (f : FunctionValue)

/-- The kinds of values. -/
inductive Kind where
  | undefined
  | null
  | bool
  | number
  | bigint
  | string
  | symbol
  | array
  | object
  | map
  | set
  | date
  | error
  | regexp
  | bytes
  | function
deriving DecidableEq

namespace Value

/-- The kind of a value, which says nothing of its content. -/
def kind : Value → Kind
  | .undefined => .undefined
  | .null => .null
  | .bool _ => .bool
  | .number _ => .number
  | .bigint _ => .bigint
  | .string _ => .string
  | .symbol _ => .symbol
  | .array _ => .array
  | .object _ => .object
  | .map _ => .map
  | .set _ => .set
  | .date _ => .date
  | .error _ => .error
  | .regexp _ => .regexp
  | .bytes _ => .bytes
  | .function _ => .function

/-- The error of class `name` that carries its name and message as properties. -/
def ofError (name message : String) : Value :=
  .error ((Record.mk (some name) []).insert (.string "name") (.string name)
    |>.insert (.string "message") (.string message))

/-- The number nearest to an integer. -/
def ofInt (n : Int) : Value := .number (Binary64.ofInt n)

/-- The classification by name: `null` and every compound but a function is an `object`. -/
def typeName (v : Value) : String :=
  match v.kind with
  | .undefined => "undefined"
  | .bool => "boolean"
  | .number => "number"
  | .bigint => "bigint"
  | .string => "string"
  | .symbol => "symbol"
  | .function => "function"
  | _ => "object"

/-- The class of a compound; primitives have none. -/
def className? : Value → Option String
  | .array _ => some "Array"
  | .object r => some (r.className.getD "Object")
  | .map _ => some "Map"
  | .set _ => some "Set"
  | .date _ => some "Date"
  | .error r => some (r.className.getD "Error")
  | .regexp _ => some "RegExp"
  | .bytes _ => some "Uint8Array"
  | .function _ => some "Function"
  | _ => none

/-- The text of a string; no other value is turned into one. -/
def text? : Value → Option String
  | .string s => some s
  | _ => none

/-- The double of a number. A big integer is not a number in this sense. -/
def number? : Value → Option Binary64
  | .number x => some x
  | _ => none

/-- The truth value of a Boolean, as opposed to `Value.isTruthy`. -/
def bool? : Value → Option Bool
  | .bool b => some b
  | _ => none

/-- The items of an array; sets and bytes have none. -/
def items? : Value → Option (List Value)
  | .array items => some items
  | _ => none

/-- The properties of an object or of an error. -/
def record? : Value → Option (Record Value)
  | .object r => some r
  | .error r => some r
  | _ => none

/-- True of `undefined` and `null` alone. -/
def isNullish (v : Value) : Bool := v.kind == .undefined || v.kind == .null

/-- False for `undefined`, `null`, `false`, both zeros, NaN, the big integer zero and the empty
string; true for everything else. -/
def isTruthy : Value → Bool
  | .undefined => false
  | .null => false
  | .bool b => b
  | .number x => !x.isZero && !x.isNaN
  | .bigint n => n != 0
  | .string s => !s.isEmpty
  | _ => true

/-- Compounds other than arrays and functions: what a template over properties may accept. -/
def isObjectLike (v : Value) : Bool :=
  [Kind.object, .error, .map, .set, .date, .regexp, .bytes].contains v.kind

/-- The property under `key` of an object or an error. -/
def property? (v : Value) (key : PropertyKey) : Option Value := v.record?.bind (·.get? key)

/-- The property under `key`, `undefined` if there is none. -/
def get (v : Value) (key : PropertyKey) : Value := (v.property? key).getD .undefined

/-- Whether there is a property under `key`; it may be `undefined`. -/
def hasProperty (v : Value) (key : PropertyKey) : Bool := (v.property? key).isSome

/-- Object-like, with the string `tag` as property `_tag`. -/
def isTagged (v : Value) (tag : String) : Bool :=
  v.isObjectLike && (v.get (.string "_tag")).text? == some tag

/-- An array of exactly `n` items. -/
def isTupleOf (v : Value) (n : Nat) : Bool := v.items?.any (·.length == n)

/-- An array of `n` items or more. -/
def isTupleOfAtLeast (v : Value) (n : Nat) : Bool := v.items?.any (n ≤ ·.length)

end Value

/-- The value of a function at these arguments. -/
def FunctionValue.call (f : FunctionValue) (arguments : List Value) : Value :=
  match f.body with
  | .nothing => .undefined
  | .firstArgument => arguments.head?.getD .undefined
  | .argumentCount => .ofInt arguments.length
  | .argumentList => .array arguments

end Casewise
