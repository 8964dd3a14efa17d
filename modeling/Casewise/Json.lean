import Casewise.Literal

/-!
# JSON data

JSON data as rules and specifications carry it: objects keep the order of their members, and a
number is either an integer, kept exactly, or a double.

* `Json.toValue` — the value that JSON data denotes; its numbers become doubles.
* `Literal.ofJson?` — the literal that a scalar denotes.
-/

namespace Casewise

/-- A JSON number: an integer of 64 bits, kept exactly, or a double. -/
inductive JsonNumber where
  | int (n : Int)
  | real (x : Binary64)
deriving DecidableEq

/-- Whether an integer fits in a word of 64 bits, signed or not. -/
def fitsWord (n : Int) : Bool := -0x8000000000000000 ≤ n && n < 0x10000000000000000

/-- The double nearest to a number. -/
def JsonNumber.toBinary64 : JsonNumber → Binary64
  | .int n => .ofInt n
  | .real x => x

/-- JSON data. -/
inductive Json where
  | null
  | bool (b : Bool)
  | number (n : JsonNumber)
  | string (s : String)
  | array (items : List Json)
  | object (members : List (String × Json))

namespace Json

mutual

/-- The value that JSON data denotes. Objects become plain records. -/
def toValue : Json → Value
  | .null => .null
  | .bool b => .bool b
  | .number n => .number n.toBinary64
  | .string s => .string s
  | .array items => .array (toValues items)
  | .object members => .object (.ofList (toProps members))

def toValues : List Json → List Value
  | [] => []
  | j :: js => j.toValue :: toValues js

def toProps : List (String × Json) → List (PropertyKey × Value)
  | [] => []
  | (k, j) :: js => (.string k, j.toValue) :: toProps js

end

/-- Data in an array are turned into values one by one. -/
theorem toValues_eq_map (js : List Json) : toValues js = js.map toValue := by
  induction js with
  | nil => rfl
  | cons j js ih => rw [toValues, ih, List.map_cons]

/-- Members of an object are turned into properties one by one, under keys that are strings. -/
theorem toProps_eq_map (ms : List (String × Json)) :
    toProps ms = ms.map fun m => (.string m.1, m.2.toValue) := by
  induction ms with
  | nil => rfl
  | cons m ms ih => rw [toProps, ih, List.map_cons]

end Json

/-- The literal that a JSON scalar denotes; arrays and objects denote none. -/
def Literal.ofJson? : Json → Option Literal
  | .null => some .null
  | .bool b => some (.bool b)
  | .number n => some (.number n.toBinary64)
  | .string s => some (.string s)
  | .array _ => none
  | .object _ => none

end Casewise
