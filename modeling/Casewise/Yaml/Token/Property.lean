import Casewise.Json.Text
import Casewise.Yaml.Glyph
import Casewise.Yaml.Token

/-!
# Names, tags and directives

The tokens that say something about a node or a document. Each reader is given the text behind the
indicator that opens its token and returns the token with the text that is left.

* `Token.name?` — the name of an anchor or an alias.
* `Token.tag?` — a tag: in angle brackets as it is, otherwise a handle and a suffix.
* `Token.directive?` — a directive, up to the end of its line.
-/

namespace Casewise.Yaml

namespace Token

/-- A name; a blank or one of a few indicators must follow. -/
def name? (gs : List Glyph) : Option (String × List Glyph) :=
  let (name, rest) := spanChars isWord gs
  if name.isEmpty then none
  else if atSpacing rest || atOneOf ['?', ':', ',', ']', '\x7d', '%', '@', '\x60'] rest then
    some (String.ofList name, rest)
  else none

/-- A character that a tag may have without an escape. -/
def isTagChar (c : Char) : Bool :=
  isWord c ||
    [';', '/', '?', ':', '@', '&', '=', '+', '$', '.', '!', '~', '*', '\'', '(', ')'].contains c

/-- A character that only a tag in angle brackets may have. -/
def isVerbatimChar (c : Char) : Bool := isTagChar c || c = ',' || c = '[' || c = ']'

/-- An escaped byte behind its percent sign. -/
def escapedByte? : List Glyph → Option (Nat × List Glyph)
  | a :: b :: rest => do
    let high ← JsonText.hexValue? a.char
    let low ← JsonText.hexValue? b.char
    return (16 * high + low, rest)
  | _ => none

/-- The first byte of a character: how many bytes follow it, what it adds to the number of the
character, and the least number that is spelled with so many bytes. -/
structure LeadingByte where
  following : Nat
  code : Nat
  least : Nat

def leadingByte? (b : Nat) : Option LeadingByte :=
  if b < 0x80 then some ⟨0, b, 0⟩
  else if b / 32 = 6 then some ⟨1, b % 32, 0x80⟩
  else if b / 16 = 14 then some ⟨2, b % 16, 0x800⟩
  else if b / 8 = 30 then some ⟨3, b % 8, 0x10000⟩
  else none

/-- The number that a first byte spells with those that follow it, each with an escape of its
own. -/
def trailingBytes? : Nat → Nat → List Glyph → Option (Nat × List Glyph)
  | 0, code, gs => some (code, gs)
  | n + 1, code, g :: gs => do
    if g.char ≠ '%' then none
    else
      let (b, rest) ← escapedByte? gs
      if b / 64 = 2 then trailingBytes? n (64 * code + b % 64) rest else none
  | _ + 1, _, [] => none

/-- A character whose bytes are escaped, behind the first percent sign; a hole if the bytes have the
form of a character and spell none. -/
def escapedChar? (gs : List Glyph) : Option (Option Char × List Glyph) := do
  let (b, rest) ← escapedByte? gs
  let first ← leadingByte? b
  let (code, rest) ← trailingBytes? first.following first.code rest
  let isChar := decide (first.least ≤ code) && decide code.isValidChar
  return (if isChar then some (Char.ofNat code) else none, rest)

/-- The characters of a tag in front of a text, collected in reverse. -/
def tagChars? (inClass : Char → Bool) :
    Nat → List (Option Char) → List Glyph → Option (List (Option Char) × List Glyph)
  | _, found, [] => some (found.reverse, [])
  | 0, found, gs => some (found.reverse, gs)
  | fuel + 1, found, g :: gs => do
    if g.char = '%' then
      let (c, rest) ← escapedChar? gs
      tagChars? inClass fuel (c :: found) rest
    else if inClass g.char then tagChars? inClass fuel (some g.char :: found) gs
    else return (found.reverse, g :: gs)

/-- The longest run of tag characters in front of a text. -/
def tagRun? (inClass : Char → Bool) (gs : List Glyph) :
    Option (List (Option Char) × List Glyph) :=
  tagChars? inClass gs.length [] gs

/-- Like `tagRun?`, but there must be a character. -/
def someTagRun? (inClass : Char → Bool) (gs : List Glyph) : Option (TagText × List Glyph) := do
  match ← tagRun? inClass gs with
  | ([], _) => none
  | (found, rest) => return (.ofChars found, rest)

/-- The word behind an exclamation mark and whether another such mark closes it. -/
def handle (gs : List Glyph) : List Char × Bool × List Glyph :=
  let (word, rest) := spanChars isWord gs
  if atChar '!' rest then (word, true, rest.drop 1) else (word, false, rest)

/-- A tag behind its exclamation mark. A mark alone is a tag of its own. -/
def tagBody? (gs : List Glyph) : Option (Token × List Glyph) := do
  if atChar '<' gs then
    let (uri, rest) ← someTagRun? isVerbatimChar (gs.drop 1)
    if atChar '>' rest then return (.tag "" uri, rest.drop 1) else none
  else
    let (word, closed, rest) := handle gs
    if closed then
      let (suffix, rest) ← someTagRun? isTagChar rest
      return (.tag (String.ofList ('!' :: word ++ ['!'])) suffix, rest)
    else
      let (suffix, rest) ← tagRun? isTagChar rest
      let suffix := TagText.ofChars (word.map some ++ suffix)
      if suffix.isEmpty then return (.tag "" .mark, rest) else return (.tag "!" suffix, rest)

/-- A tag behind its exclamation mark; a blank must follow, or a comma in a flow collection. -/
def tag? (inFlow : Bool) (gs : List Glyph) : Option (Token × List Glyph) := do
  let (t, rest) ← tagBody? gs
  if atSpacing rest || (inFlow && atChar ',' rest) then return (t, rest) else none

/-- A number of at most nine digits. -/
def smallNumber? (gs : List Glyph) : Option (Nat × List Glyph) :=
  let (digits, rest) := spanChars Char.isDigit gs
  if digits.isEmpty || 9 < digits.length then none else some (JsonText.natOfDigits digits, rest)

/-- The version that a directive names. -/
def version? (gs : List Glyph) : Option (Token × List Glyph) := do
  let (major, rest) ← smallNumber? (skipBlanks gs)
  if atChar '.' rest then
    let (minor, rest) ← smallNumber? (rest.drop 1)
    return (.version major minor, rest)
  else none

/-- The shorthand that a directive defines. -/
def tagDirective? (gs : List Glyph) : Option (Token × List Glyph) := do
  match skipBlanks gs with
  | [] => none
  | g :: gs =>
    if g.char ≠ '!' then none
    else
      let (word, closed, rest) := handle gs
      if !closed && !word.isEmpty then none
      else if !atSpacing rest || atLineEnd rest then none
      else
        let (start, rest) ← someTagRun? isVerbatimChar (skipBlanks rest)
        let mark := if closed then ['!'] else []
        if atSpacing rest then
          return (.tagDirective (String.ofList ('!' :: word ++ mark)) start, rest)
        else none

/-- A directive behind its percent sign, with the rest of its line. -/
def directive? (gs : List Glyph) : Option (Token × List Glyph) := do
  let (name, rest) := spanChars isWord gs
  if !atSpacing rest then none
  else
    let (t, rest) ← match String.ofList name with
      | "YAML" => version? rest
      | "TAG" => tagDirective? rest
      | _ => none
    let rest := skipComment (skipBlanks rest)
    if atLineEnd rest then return (t, rest.drop 1) else none

end Token

end Casewise.Yaml
