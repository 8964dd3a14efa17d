import Casewise.Unicode.Property

/-!
# Classes with a short name

* `NamedClass` — digits, blanks and letters of words, and the classes of ASCII.
* `NamedClass.chars` — the characters of a class, among all or among those of ASCII.
-/

namespace Casewise.Regex

inductive NamedClass where
  | digit
  | blank
  | word
  | ascii (chars : CodeSet)
deriving DecidableEq

/-- The classes of ASCII. -/
def asciiClasses : Unicode.Table :=
  [(["alnum"], ["30-39 41-5a 61-7a"]),
   (["alpha"], ["41-5a 61-7a"]),
   (["ascii"], ["0-7f"]),
   (["blank"], ["9 20"]),
   (["cntrl"], ["0-1f 7f"]),
   (["digit"], ["30-39"]),
   (["graph"], ["21-7e"]),
   (["lower"], ["61-7a"]),
   (["print"], ["20-7e"]),
   (["punct"], ["21-2f 3a-40 5b-60 7b-7e"]),
   (["space"], ["9-d 20"]),
   (["upper"], ["41-5a"]),
   (["word"], ["30-39 41-5a 5f 61-7a"]),
   (["xdigit"], ["30-39 41-46 61-66"])]

namespace NamedClass

/-- The class of ASCII with a name. -/
def ofAsciiName? (name : String) : Option NamedClass := (asciiClasses.find? name).map .ascii

/-- The characters of a class: those of Unicode, or only those of ASCII. -/
def chars (unicode : Bool) : NamedClass → CodeSet
  | .digit => if unicode then Unicode.inCategories ["nd"] else .ofTable "30-39"
  | .blank => if unicode then Unicode.listed "whitespace" else .ofTable "9-d 20"
  | .word => if unicode then Unicode.wordChars else .ofTable "30-39 41-5a 5f 61-7a"
  | .ascii chars => chars

end NamedClass

end Casewise.Regex
