import Casewise.Number.Notation
import Casewise.Text.Quoted
import Casewise.Value

/-!
# The structure of values, spelled out

`Value.inspect` names every constructor on the way, for diagnostics: `String("a")`,
`Array([Number(1.0), Null])`. Numbers keep their sign of zero and always show a fraction or an
exponent.
-/

namespace Casewise

/-- The content in round brackets behind the name. -/
def tagged (name content : String) : String := name ++ "(" ++ content ++ ")"

/-- Items between brackets. -/
def bracketed (items : List String) : String := "[" ++ ", ".intercalate items ++ "]"

namespace PropertyKey

def inspect : PropertyKey → String
  | .string s => tagged "String" (Quoted.encode s)
  | .symbol s => tagged "Symbol" s.inspect

end PropertyKey

/-- One byte of a byte literal: printable ASCII as it is, a short escape or two hexadecimal
digits otherwise. -/
def inspectByte (b : UInt8) : String :=
  if b = 10 then "\\n"
  else if b = 13 then "\\r"
  else if b = 9 then "\\t"
  else if b = 92 then "\\\\"
  else if b = 34 then "\\\""
  else if b = 0 then "\\0"
  else if 32 ≤ b ∧ b < 127 then String.singleton (Char.ofNat b.toNat)
  else "\\x" ++ String.ofList (Quoted.paddedHexadecimal 2 b.toNat)

namespace Value

mutual

/-- The structure of a value. -/
def inspect : Value → String
  | .undefined => "Undefined"
  | .null => "Null"
  | .bool b => tagged "Bool" (if b then "true" else "false")
  | .number x => tagged "Number" x.exact
  | .bigint n => tagged "BigInt" (toString n)
  | .string s => tagged "String" (Quoted.encode s)
  | .symbol s => tagged "Symbol" s.inspect
  | .array items => tagged "Array" (bracketed (inspectItems items))
  | .object r => tagged "Object" (inspectRecord r)
  | .map entries => tagged "Map" (bracketed (inspectPairs entries))
  | .set items => tagged "Set" (bracketed (inspectItems items))
  | .date i => tagged "Date" i.inspect
  | .error r => tagged "Error" (inspectRecord r)
  | .regexp source => tagged "RegExp" (tagged "RegexValue" (tagged "Regex" (Quoted.encode source)))
  | .bytes content => tagged "Bytes" ("b\"" ++ String.join (content.map inspectByte) ++ "\"")
  | .function f =>
    tagged "Function" ("Callable \x7b name: " ++ Quoted.encode f.name ++ " \x7d")

/-- Class and properties of a record. -/
def inspectRecord : Record Value → String
  | ⟨c, ps⟩ =>
    "Object \x7b class: " ++
      (match c with
        | some name => tagged "Some" (Quoted.encode name)
        | none => "None") ++
      ", props: \x7b" ++ ", ".intercalate (inspectProps ps) ++ "\x7d \x7d"

/-- The structure of properties, key and value. -/
def inspectProps : List (PropertyKey × Value) → List String
  | [] => []
  | (k, v) :: ps => (k.inspect ++ ": " ++ inspect v) :: inspectProps ps

/-- The structure of items, one by one. -/
def inspectItems : List Value → List String
  | [] => []
  | v :: vs => inspect v :: inspectItems vs

/-- The structure of the entries of a map, each as a pair. -/
def inspectPairs : List (Value × Value) → List String
  | [] => []
  | (k, v) :: vs => ("(" ++ inspect k ++ ", " ++ inspect v ++ ")") :: inspectPairs vs

end

end Value

end Casewise
