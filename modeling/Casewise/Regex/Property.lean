import Casewise.Unicode.Age
import Casewise.Unicode.Script
import Casewise.Unicode.Segmentation

/-!
# Properties in expressions

A class of a regular expression may name a property of Unicode. Case, spaces, hyphens and low lines
in a name do not count, nor does `is` in front of it.

* `PropertyQuery.chars?` — the characters that are meant, if there is such a property or such a
  value of one.
-/

namespace Casewise.Regex

/-- What a class names: a property that a character has or has not, or the value of one. -/
inductive PropertyQuery where
  | named (name : String)
  | valued (name value : String)
deriving DecidableEq

/-- The spelling of a name that counts. -/
def canonicalName (name : String) : String :=
  let prefixed := match name.toList with
    | i :: s :: _ => i.toLower = 'i' && s.toLower = 's'
    | _ => false
  let kept := (name.toList.drop (if prefixed then 2 else 0)).filter fun c =>
    c ≠ ' ' && c ≠ '_' && c ≠ '-' && c.toNat < 0x80
  let short := String.ofList (kept.map Char.toLower)
  if prefixed && short == "c" then "isc" else short

namespace PropertyQuery

/-- The characters for which a property has a value. Both names are spelled as they count. -/
def charsOfValue? (name value : String) : Option CodeSet :=
  match name with
  | "generalcategory" | "gc" => Unicode.category? value
  | "script" | "sc" => Unicode.script? value
  | "scriptextensions" | "scx" => Unicode.scriptExtension? value
  | "age" => Unicode.age? value
  | "graphemeclusterbreak" | "gcb" => Unicode.clusterBreak? value
  | "wordbreak" | "wb" => Unicode.wordBreak? value
  | "sentencebreak" | "sb" => Unicode.sentenceBreak? value
  | _ => none

/-- The characters that are meant. A name alone is a property, a general category or a script. -/
def chars? : PropertyQuery → Option CodeSet
  | .named name =>
    let name := canonicalName name
    Unicode.property? name <|> Unicode.category? name <|> Unicode.script? name
  | .valued name value => charsOfValue? (canonicalName name) (canonicalName value)

end PropertyQuery

end Casewise.Regex
