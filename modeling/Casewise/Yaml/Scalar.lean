import Casewise.Document
import Casewise.Json.Text
import Casewise.Yaml.Tag

/-!
# The meaning of a scalar

A plain scalar without a tag may spell `null`, a truth value or a number; whatever spells none of
them is a string. A tag of the standard names the kind that is meant, which the text must then
spell. A tag of the document's own that gives a name has no meaning here; one that gives none says
nothing about the scalar.

* `Scalar.plain?` — the meaning of a plain scalar; integers beyond 64 bits are refused.
* `Scalar.tagged?` — the meaning of a scalar with a tag.
-/

namespace Casewise.Yaml

namespace Scalar

def isNull (s : String) : Bool := ["null", "Null", "NULL", "~"].contains s

def bool? (s : String) : Option Bool :=
  if ["true", "True", "TRUE"].contains s then some true
  else if ["false", "False", "FALSE"].contains s then some false
  else none

/-- The text without the given start. -/
def without? : (start cs : List Char) → Option (List Char)
  | [], cs => some cs
  | c :: start, d :: cs => if c = d then without? start cs else none
  | _ :: _, [] => none

/-- The number that digits of a base spell. -/
def natInBase? (base : Nat) (cs : List Char) : Option Nat :=
  if cs.isEmpty then none
  else
    cs.foldlM (fun n c => do
      let d ← JsonText.hexValue? c
      if d < base then some (base * n + d) else none) 0

/-- The text without a sign. -/
def unsigned : List Char → List Char
  | '+' :: cs => cs
  | '-' :: cs => cs
  | cs => cs

/-- Digits with a zero too much in front, which spell a string and no number. -/
def hasLeadingZero (cs : List Char) : Bool :=
  match unsigned cs with
  | '0' :: c :: cs => (c :: cs).all Char.isDigit
  | _ => false

/-- The bases that a mark announces. -/
def bases : List (List Char × Nat) := [(['0', 'x'], 16), (['0', 'o'], 8), (['0', 'b'], 2)]

/-- A number behind the mark of its base or, without a mark, in decimal. -/
def nat? (cs : List Char) : Option Nat :=
  let marked := bases.findSome? fun (mark, base) => (without? mark cs).bind (natInBase? base)
  marked <|> if hasLeadingZero cs then none else natInBase? 10 cs

/-- An integer with or without a sign. -/
def int? : List Char → Option Int
  | '-' :: cs => (nat? cs).map fun n => -(n : Int)
  | '+' :: cs => (nat? cs).map Int.ofNat
  | cs => (nat? cs).map Int.ofNat

/-- How an integer can be used. -/
inductive IntRange where
  | fits
  /-- too long for 64 bits but not for 128 -/
  | refused
  /-- too long even for 128 bits, and so no integer -/
  | beyond
deriving DecidableEq

def intRange (n : Int) : IntRange :=
  if fitsWord n then .fits
  else if -0x80000000000000000000000000000000 ≤ n ∧ n < 0x100000000000000000000000000000000 then
    .refused
  else .beyond

/-- The decimal digits of a float around its point, and its exponent. -/
def decimal? (cs : List Char) : Option (List Char × List Char × Int) := do
  let (whole, cs) := JsonText.digits cs
  let (places, cs) := match cs with
    | '.' :: cs => JsonText.digits cs
    | cs => ([], cs)
  let (exponent, cs) ← JsonText.exponent? cs
  if (whole.isEmpty && places.isEmpty) || !cs.isEmpty then none
  else return (whole, places, exponent.getD 0)

/-- A finite float with or without a sign; digits may be missing on one side of the point. -/
def finite? (cs : List Char) : Option Binary64 := do
  let negative := cs.head? == some '-'
  let (whole, places, exponent) ← decimal? (unsigned cs)
  let x := Binary64.ofDecimal negative (JsonText.natOfDigits (whole ++ places))
    (exponent - places.length)
  if x.isFinite then return x else none

/-- A float, finite or not. -/
def float? (s : String) : Option Binary64 :=
  if [".inf", ".Inf", ".INF", "+.inf", "+.Inf", "+.INF"].contains s then some .infinity
  else if ["-.inf", "-.Inf", "-.INF"].contains s then some .negativeInfinity
  else if [".nan", ".NaN", ".NAN"].contains s then some .nan
  else finite? s.toList

/-- The meaning of a text that spells an integer: nothing if it spells none, and no document if the
integer is refused. -/
def intDocument? (s : String) : Option (Option Document) := do
  let n ← int? s.toList
  match intRange n with
  | .fits => return some (.int n)
  | .refused => return none
  | .beyond => none

/-- The meaning of a plain scalar. -/
def plain? (s : String) : Option Document :=
  if s.isEmpty ∨ isNull s then some .null
  else
    match bool? s, intDocument? s with
    | some b, _ => some (.bool b)
    | none, some d => d
    | none, none =>
      if hasLeadingZero s.toList then some (.text s)
      else some (((float? s).map Document.real).getD (.text s))

/-- The meaning of a scalar without a tag. -/
def untagged? (s : String) (plain : Bool) : Option Document :=
  if plain then plain? s else some (.text s)

/-- The meaning of a scalar with a tag. -/
def tagged? (tag : TagText) (s : String) (plain : Bool) : Option Document :=
  if tag.localName?.isSome then none
  else if tag.isLocal then untagged? s plain
  else if tag = .standard "bool" then (bool? s).map .bool
  else if tag = .standard "int" then (intDocument? s).join
  else if tag = .standard "float" then (float? s).map .real
  else if tag = .standard "null" then if isNull s then some .null else none
  else some (.text s)

/-- The meaning of a scalar. -/
def meaning? (tag : Option TagText) (text : String) (plain : Bool) : Option Document :=
  match tag with
  | some t => tagged? t text plain
  | none => untagged? text plain

end Scalar

end Casewise.Yaml
