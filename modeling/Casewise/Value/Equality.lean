import Casewise.Value

/-!
# Equality of values

Values are equal if they are of one kind and agree in content: numbers numerically, symbols and
functions by identity, regular expressions by source, arrays, maps and sets item by item in order.
Records are equal if they have the same class, equally many properties, and every property of the
first is equal to the property of the second under the same key; the order of insertion does not
matter. A NaN anywhere makes a value differ from itself.

* `Value.equals` — the equality, also as `==`.
* `Value.equalsEach`, `Value.equalsPairs`, `Value.equalsProps` — its parts on lists.
-/

namespace Casewise.Value

mutual

/-- Equality in kind and content. -/
def equals : Value → Value → Bool
  | .undefined, .undefined => true
  | .null, .null => true
  | .bool a, .bool b => a == b
  | .number a, .number b => a.equals b
  | .bigint a, .bigint b => a == b
  | .string a, .string b => a == b
  | .symbol a, .symbol b => a == b
  | .array a, .array b => equalsEach a b
  | .object a, .object b => equalsRecord a b
  | .map a, .map b => equalsPairs a b
  | .set a, .set b => equalsEach a b
  | .date a, .date b => a == b
  | .error a, .error b => equalsRecord a b
  | .regexp a, .regexp b => a == b
  | .bytes a, .bytes b => a == b
  | .function a, .function b => a.id == b.id
  | _, _ => false
termination_by structural v => v

/-- The same class, equally many properties, and each property of the first in the second. -/
def equalsRecord : Record Value → Record Value → Bool
  | ⟨c, ps⟩, r => c == r.className && ps.length == r.props.length && equalsProps ps r.props
termination_by structural r => r

/-- Every entry of the first list has an equal value under its key in the second. -/
def equalsProps : List (PropertyKey × Value) → List (PropertyKey × Value) → Bool
  | [], _ => true
  | (k, v) :: ps, qs =>
    (match OrderedMap.get? qs k with
      | some w => equals v w
      | none => false) && equalsProps ps qs
termination_by structural ps => ps

/-- Equal lengths and equal items in order. -/
def equalsEach : List Value → List Value → Bool
  | [], [] => true
  | v :: vs, w :: ws => equals v w && equalsEach vs ws
  | _, _ => false
termination_by structural vs => vs

/-- Equal lengths and equal keys and values in order. -/
def equalsPairs : List (Value × Value) → List (Value × Value) → Bool
  | [], [] => true
  | (k, v) :: vs, (l, w) :: ws => equals k l && equals v w && equalsPairs vs ws
  | _, _ => false
termination_by structural vs => vs

end

instance : BEq Value := ⟨equals⟩

end Casewise.Value
