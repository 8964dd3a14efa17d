import Casewise.Number.Notation
import Casewise.Text.Quoted
import Casewise.Value

/-!
# Rendering values

`Value.display` is the rendering of a value in messages: primitives as one would write them down,
strings quoted, arrays in brackets, records in braces behind the name of their class, and the other
compounds by kind and size or by source.

* `Value.display` — the rendering.
* `Value.displayItems`, `Value.displayProps` — the renderings of items and of properties, one each.
-/

namespace Casewise

/-- Properties between braces, a space inside unless there are none. -/
def braced (entries : List String) : String :=
  if entries.isEmpty then "\x7b\x7d" else "\x7b " ++ ", ".intercalate entries ++ " \x7d"

namespace Value

/-- The text of an error: its class and the message if that is a string. -/
def errorText (r : Record Value) : String :=
  r.className.getD "Error" ++ ": " ++ ((r.get? (.string "message")).bind text?).getD ""

mutual

/-- The rendering of a value. -/
def display : Value → String
  | .undefined => "undefined"
  | .null => "null"
  | .bool b => if b then "true" else "false"
  | .number x => x.plain
  | .bigint n => toString n ++ "n"
  | .string s => Quoted.encode s
  | .symbol s => s.display
  | .array items => "[" ++ ", ".intercalate (displayItems items) ++ "]"
  | .object r => displayRecord r
  | .map entries => "Map(" ++ toString entries.length ++ ")"
  | .set items => "Set(" ++ toString items.length ++ ")"
  | .date i => i.display
  | .error r => errorText r
  | .regexp source => "/" ++ source ++ "/"
  | .bytes content => "Uint8Array(" ++ toString content.length ++ ")"
  | .function f => "[Function " ++ f.name ++ "]"

/-- The name of the class, if any, and the properties in braces. -/
def displayRecord : Record Value → String
  | ⟨c, ps⟩ => (match c with
      | some name => name ++ " "
      | none => "") ++ braced (displayProps ps)

/-- Each property as key, colon and value. -/
def displayProps : List (PropertyKey × Value) → List String
  | [] => []
  | (k, v) :: ps => (k.display ++ ": " ++ display v) :: displayProps ps

/-- Each item by its own rendering. -/
def displayItems : List Value → List String
  | [] => []
  | v :: vs => display v :: displayItems vs

end

end Value

end Casewise
