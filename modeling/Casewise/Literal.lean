import Casewise.Value.Display
import Casewise.Value.Equality
import Casewise.Value.Inspect

/-!
# Literals

A literal is a primitive or a symbol that a pattern compares with. Comparison is strict: nothing
is converted between kinds, NaN equals nothing, the two zeros are equal, symbols go by identity.

* `Literal.strictEquals` — the comparison with a value.
* `Literal.toValue`, `Literal.ofValue?` — a literal as a value and back.
-/

namespace Casewise

/-- A primitive value or a symbol. -/
inductive Literal where
  | undefined
  | null
  | bool (b : Bool)
  | number (x : Binary64)
  | bigint (n : Int)
  | string (s : String)
  | symbol (s : Symbol)

namespace Literal

/-- Strict equality with a value. -/
def strictEquals : Literal → Value → Bool
  | .undefined, .undefined => true
  | .null, .null => true
  | .bool a, .bool b => a == b
  | .number a, .number b => a.equals b
  | .bigint a, .bigint b => a == b
  | .string a, .string b => a == b
  | .symbol a, .symbol b => a == b
  | _, _ => false

/-- The value that a literal is. -/
def toValue : Literal → Value
  | .undefined => .undefined
  | .null => .null
  | .bool b => .bool b
  | .number x => .number x
  | .bigint n => .bigint n
  | .string s => .string s
  | .symbol s => .symbol s

/-- The literal that a primitive or a symbol is; compounds are none. -/
def ofValue? : Value → Option Literal
  | .undefined => some .undefined
  | .null => some .null
  | .bool b => some (.bool b)
  | .number x => some (.number x)
  | .bigint n => some (.bigint n)
  | .string s => some (.string s)
  | .symbol s => some (.symbol s)
  | _ => none

/-- Strict equality is equality of values. -/
theorem strictEquals_eq (l : Literal) (v : Value) : l.strictEquals v = l.toValue.equals v := by
  cases l <;> cases v <;> rfl

/-- A literal is rendered as the value that it is. -/
def display (l : Literal) : String := l.toValue.display

/-- The structure of a literal is spelled as that of the value that it is. -/
def inspect (l : Literal) : String := l.toValue.inspect

end Literal

end Casewise
