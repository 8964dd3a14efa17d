import Casewise.Yaml.Glyph

/-!
# Joined lines

A flow scalar may run over several lines. Blanks around a line break do not count; one break
between two words is a space, and of several the first does not count.

* `Folding` — a scalar that is being read: its text so far and the spacing after it, which counts
  only if more text follows.
* `Folding.spacing`, `Folding.text` — what a character adds.
-/

namespace Casewise.Yaml

/-- A scalar that is being read. All texts are in reverse. -/
structure Folding where
  done : List Char := []
  /-- blanks since the text, as long as no line break has come -/
  blanks : List Char := []
  /-- whether the line was broken since the text -/
  broken : Bool := false
  /-- the first line break; none if it was escaped -/
  first : Option Char := none
  /-- the line breaks after the first -/
  more : List Char := []

namespace Folding

/-- A blank or a line break. -/
def spacing (f : Folding) (g : Glyph) : Folding :=
  if g.isBreak then
    if f.broken then { f with more := g.char :: f.more }
    else { f with blanks := [], broken := true, first := some g.char }
  else if f.broken then f
  else { f with blanks := g.char :: f.blanks }

/-- The spacing as part of the text. -/
def settle (f : Folding) : Folding :=
  if f.broken then
    let joint := match f.first with
      | some '\n' => if f.more.isEmpty then [' '] else f.more
      | some c => f.more ++ [c]
      | none => f.more
    { done := joint ++ f.done }
  else { done := f.blanks ++ f.done }

/-- A character of the text. -/
def text (f : Folding) (c : Char) : Folding :=
  let f := f.settle
  { f with done := c :: f.done }

/-- A line break that was escaped: it joins the lines without a space. -/
def escapedBreak (f : Folding) : Folding := { f.settle with broken := true }

/-- The text without the spacing after it. -/
def toString (f : Folding) : String := String.ofList f.done.reverse

end Folding

end Casewise.Yaml
