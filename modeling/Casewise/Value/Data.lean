import Casewise.Value

/-!
# Data values

A data value is made of undefined, null, Booleans, big integers, whole numbers, strings, arrays and
plain objects under plain names: what one writes down without symbols, classes or functions.

* `PlainName` — a text that shows as it is where a key stands.
* `Value.IsData` — data values, at any depth.
* `Value.unsignZeros` — the value with its zeros without sign; nothing else of a data value changes.
-/

namespace Casewise

/-- ASCII letters, digits and underscores, and at least one of them. -/
def PlainName (s : String) : Prop :=
  s ≠ "" ∧ ∀ c ∈ s.toList, c.isAlphanum = true ∨ c = '_'

/-- The number itself; of the two zeros the one without sign. -/
def Binary64.unsignZero (x : Binary64) : Binary64 := if x.isZero then zero else x

namespace Value

/-- Undefined, null, Booleans, big integers, strings, numbers that are integers below `10 ^ 21` in
magnitude, and arrays and objects of such values, objects being of no class and having plain names
as keys. -/
inductive IsData : Value → Prop
  | undefined : IsData .undefined
  | null : IsData .null
  | bool (b : Bool) : IsData (.bool b)
  | number {x : Binary64} {n : Int} (hx : x.toInt? = some n)
    (hn : n.natAbs < 1000000000000000000000) : IsData (.number x)
  | bigint (n : Int) : IsData (.bigint n)
  | string (s : String) : IsData (.string s)
  | array {items : List Value} (hitems : ∀ v ∈ items, IsData v) : IsData (.array items)
  | object {ps : List (PropertyKey × Value)}
    (hkeys : ∀ e ∈ ps, ∃ name, e.1 = .string name ∧ PlainName name)
    (hvalues : ∀ e ∈ ps, IsData e.2) : IsData (.object ⟨none, ps⟩)

mutual

/-- The same value, its zeros without sign: those that are items or stand under keys, at any
depth. -/
def unsignZeros : Value → Value
  | .number x => .number x.unsignZero
  | .array items => .array (unsignZerosEach items)
  | .object r => .object (unsignZerosRecord r)
  | v => v
termination_by structural v => v

/-- The zeros under the keys of a record without sign, its class and its keys as they are. -/
def unsignZerosRecord : Record Value → Record Value
  | ⟨c, ps⟩ => ⟨c, unsignZerosProps ps⟩
termination_by structural r => r

/-- The zeros under the keys of a list of properties without sign. -/
def unsignZerosProps : List (PropertyKey × Value) → List (PropertyKey × Value)
  | [] => []
  | (k, v) :: ps => (k, unsignZeros v) :: unsignZerosProps ps
termination_by structural ps => ps

/-- The zeros among the items of an array, and inside of them, without sign. -/
def unsignZerosEach : List Value → List Value
  | [] => []
  | v :: vs => unsignZeros v :: unsignZerosEach vs
termination_by structural vs => vs

end

/-- Items lose the sign of their zeros one by one. -/
theorem unsignZerosEach_eq_map (vs : List Value) : unsignZerosEach vs = vs.map unsignZeros := by
  induction vs with
  | nil => rfl
  | cons v vs ih => rw [unsignZerosEach, ih, List.map_cons]

/-- Properties lose the sign of their zeros one by one; the keys stay. -/
theorem unsignZerosProps_eq_map (ps : List (PropertyKey × Value)) :
    unsignZerosProps ps = ps.map fun e => (e.1, e.2.unsignZeros) := by
  induction ps with
  | nil => rfl
  | cons e ps ih => rw [unsignZerosProps, ih, List.map_cons]

end Value

end Casewise
