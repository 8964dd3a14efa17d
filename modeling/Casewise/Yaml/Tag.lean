/-!
# Tags of a YAML text

A tag is written as a URI, whose escapes spell bytes. Bytes that are no character leave a hole in
the text of the tag; a tag with a hole names nothing.

* `TagText` — the text of a tag or of a part of one; it ends before the first NUL.
* `TagText.isLocal`, `TagText.localName?` — whether a tag is one of the document's own, and the name
  that it then gives.
* `TagText.standard` — the tags of the standard.
-/

namespace Casewise.Yaml

/-- The text of a tag. A hole stands for bytes that are no character. -/
structure TagText where
  chars : List (Option Char)
deriving DecidableEq

namespace TagText

/-- A text up to the first NUL. -/
def ofChars (cs : List (Option Char)) : TagText := ⟨cs.takeWhile (· ≠ some '\x00')⟩

/-- A text that is written as it stands. -/
def ofString (s : String) : TagText := ofChars (s.toList.map some)

instance : Append TagText := ⟨fun s t => ⟨s.chars ++ t.chars⟩⟩

/-- Whether nothing is written. -/
def isEmpty (t : TagText) : Bool := t.chars.isEmpty

/-- The lone exclamation mark. -/
def mark : TagText := ⟨[some '!']⟩

/-- The tag of the standard with a name. -/
def standard (name : String) : TagText := ofString ("tag:yaml.org,2002:" ++ name)

/-- Whether a tag begins with an exclamation mark: then it is one of the document's own. -/
def isLocal (t : TagText) : Bool := t.chars.head? == some (some '!')

/-- The name that a tag of the document's own gives, which must have no hole. A lone exclamation
mark gives itself. -/
def localName? (t : TagText) : Option String :=
  match t.chars with
  | [some '!'] => some "!"
  | some '!' :: name => (name.mapM id).map String.ofList
  | _ => none

end TagText

end Casewise.Yaml
