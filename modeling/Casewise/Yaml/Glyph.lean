/-!
# Characters of a YAML text

YAML is read by lines and columns, so every character is kept with its place. The five line breaks
are made one here, except for the two separators of Unicode, which stay what they are in a scalar.

* `Glyph.ofText?` — the characters of a text with their places; a control character is refused.
* `Glyph.isBreak`, `Glyph.isBlank`, `Glyph.isSpacing` — the classes that lay a text out.
* `Glyph.isOrderMark` — a mark that may stand in front of a line and says nothing.
* `atMarker` — whether a line starts with the marker of a document.
-/

namespace Casewise.Yaml

/-- A character and its place: the count of the bytes, of the lines and of the characters of the
line before it. A line break is `'\n'` whichever of the short forms was written. -/
structure Glyph where
  char : Char
  offset : Nat
  line : Nat
  column : Nat

/-- Whether a character may stand in a YAML text. -/
def isAllowed (c : Char) : Bool :=
  c = '\t' || c = '\n' || c = '\r' || (' ' ≤ c && c ≤ '~') || c = '\u0085' ||
    ('\u00a0' ≤ c && c ≠ '\ufffe' && c ≠ '\uffff')

namespace Glyph

/-- A line break. -/
def isBreak (g : Glyph) : Bool := g.char = '\n' || g.char = '\u2028' || g.char = '\u2029'

/-- A byte order mark at the start of a line. -/
def isOrderMark (g : Glyph) : Bool := g.column = 0 && g.char = '\ufeff'

/-- A space or a tab. -/
def isBlank (g : Glyph) : Bool := g.char = ' ' || g.char = '\t'

/-- A blank or a line break. -/
def isSpacing (g : Glyph) : Bool := g.isBlank || g.isBreak

/-- The characters of a text from a place on. -/
def place : (offset line column : Nat) → List Char → List Glyph
  | _, _, _, [] => []
  | offset, line, column, '\r' :: '\n' :: cs =>
    ⟨'\n', offset, line, column⟩ :: place (offset + 2) (line + 1) 0 cs
  | offset, line, column, c :: cs =>
    if c = '\n' ∨ c = '\r' ∨ c = '\u0085' then
      ⟨'\n', offset, line, column⟩ :: place (offset + c.utf8Size) (line + 1) 0 cs
    else if c = '\u2028' ∨ c = '\u2029' then
      ⟨c, offset, line, column⟩ :: place (offset + c.utf8Size) (line + 1) 0 cs
    else ⟨c, offset, line, column⟩ :: place (offset + c.utf8Size) line (column + 1) cs

/-- The characters of a text with their places. -/
def ofText? (s : String) : Option (List Glyph) :=
  let cs := s.toList
  if cs.all isAllowed then some (place 0 0 0 cs) else none

end Glyph

/-- Whether a text is at its end or at a blank or line break. -/
def atSpacing : List Glyph → Bool
  | [] => true
  | g :: _ => g.isSpacing

/-- Whether a text is at its end or at a line break. -/
def atLineEnd : List Glyph → Bool
  | [] => true
  | g :: _ => g.isBreak

/-- Whether a text is at the given character. -/
def atChar (c : Char) : List Glyph → Bool
  | [] => false
  | g :: _ => g.char = c

/-- Whether a text is at one of the given characters. -/
def atOneOf (chars : List Char) : List Glyph → Bool
  | [] => false
  | g :: _ => chars.contains g.char

/-- Whether a text is at a marker of a document: three times the character at the start of a line,
and nothing else in that word. -/
def atMarker (mark : Char) : List Glyph → Bool
  | g₁ :: g₂ :: g₃ :: rest =>
    g₁.column = 0 && g₁.char = mark && g₂.char = mark && g₃.char = mark && atSpacing rest
  | _ => false

/-- Whether a text is at the start or the end of a document. -/
def atDocumentBoundary (gs : List Glyph) : Bool := atMarker '-' gs || atMarker '.' gs

/-- The text without the blanks in front. -/
def skipBlanks (gs : List Glyph) : List Glyph := gs.dropWhile Glyph.isBlank

/-- The text without the comment that may be in front of it, up to the end of the line. -/
def skipComment (gs : List Glyph) : List Glyph :=
  if atChar '#' gs then gs.dropWhile fun g => !g.isBreak else gs

/-- The characters in front that belong to a class, and what is left. -/
def spanChars (inClass : Char → Bool) (gs : List Glyph) : List Char × List Glyph :=
  ((gs.takeWhile fun g => inClass g.char).map Glyph.char, gs.dropWhile fun g => inClass g.char)

/-- A letter of a name: an ASCII letter or digit, a hyphen or a low line. -/
def isWord (c : Char) : Bool := c.isAlphanum || c = '-' || c = '_'

end Casewise.Yaml
