import Casewise.Json.Text
import Casewise.Yaml.Folding
import Casewise.Yaml.Token

/-!
# Scalars of a YAML text

Each reader returns the text of a scalar, its lines joined, and what is left behind it.

* `Token.singleQuoted?`, `Token.doubleQuoted?` — behind the opening quote.
* `Token.plain?` — without quotes; it ends where an indicator or a smaller indentation says so.
* `Token.block?` — behind the indicator of a literal or folded block.
-/

namespace Casewise.Yaml

namespace Token

/-! ## Quoted scalars -/

/-- The text up to the closing quote; a quote written twice stands for one. -/
def singleQuotedFrom? (f : Folding) : List Glyph → Option (String × List Glyph)
  | [] => none
  | g :: gs =>
    if atDocumentBoundary (g :: gs) then none
    else if g.isSpacing then singleQuotedFrom? (f.spacing g) gs
    else if g.char = '\'' then
      match gs with
      | g' :: rest =>
        if g'.char = '\'' then singleQuotedFrom? (f.text '\'') rest
        else some (f.settle.toString, gs)
      | [] => some (f.settle.toString, gs)
    else singleQuotedFrom? (f.text g.char) gs

def singleQuoted? (gs : List Glyph) : Option (String × List Glyph) := singleQuotedFrom? {} gs

/-- What stands behind a backslash: a character, or the number of hexadecimal digits of one. -/
inductive Escape where
  | char (c : Char)
  | digits (n : Nat)

def escape? : Char → Option Escape
  | '0' => some (.char '\x00')
  | 'a' => some (.char '\x07')
  | 'b' => some (.char '\x08')
  | 't' => some (.char '\t')
  | '\t' => some (.char '\t')
  | 'n' => some (.char '\n')
  | 'v' => some (.char '\x0b')
  | 'f' => some (.char '\x0c')
  | 'r' => some (.char '\r')
  | 'e' => some (.char '\x1b')
  | ' ' => some (.char ' ')
  | '"' => some (.char '"')
  | '/' => some (.char '/')
  | '\\' => some (.char '\\')
  | 'N' => some (.char '\u0085')
  | '_' => some (.char '\u00a0')
  | 'L' => some (.char '\u2028')
  | 'P' => some (.char '\u2029')
  | 'x' => some (.digits 2)
  | 'u' => some (.digits 4)
  | 'U' => some (.digits 8)
  | _ => none

/-- The character with a number, unless the number is that of none. -/
def charOfCode? (code : Nat) : Option Char :=
  if code.isValidChar then some (Char.ofNat code) else none

/-- The text up to the closing quote. `pending` is the escape that is being read: how many digits
it still lacks, and the number that those before spell. -/
def doubleQuotedFrom? (f : Folding) (pending : Option (Nat × Nat)) :
    List Glyph → Option (String × List Glyph)
  | [] => none
  | g :: gs =>
    match pending with
    | some (n, code) => do
      let code := 16 * code + (← JsonText.hexValue? g.char)
      -- this is the last digit, or the number goes on
      if n ≤ 1 then doubleQuotedFrom? (f.text (← charOfCode? code)) none gs
      else doubleQuotedFrom? f (some (n - 1, code)) gs
    | none =>
      if atDocumentBoundary (g :: gs) then none
      else if g.isSpacing then doubleQuotedFrom? (f.spacing g) none gs
      else if g.char = '"' then some (f.settle.toString, gs)
      else if g.char = '\\' then
        match gs with
        | [] => none
        | e :: rest =>
          if e.isBreak then doubleQuotedFrom? f.escapedBreak none rest
          else
            match escape? e.char with
            | some (.char c) => doubleQuotedFrom? (f.text c) none rest
            | some (.digits n) => doubleQuotedFrom? f (some (n, 0)) rest
            | none => none
      else doubleQuotedFrom? (f.text g.char) none gs

def doubleQuoted? (gs : List Glyph) : Option (String × List Glyph) := doubleQuotedFrom? {} none gs

/-! ## Plain scalars -/

/-- The indicators that end a plain scalar in a flow collection. -/
def isFlowIndicator (c : Char) : Bool := [',', '[', ']', '\x7b', '\x7d'].contains c

/-- A plain scalar with what is left behind it, and whether that begins on another line. -/
structure Plain where
  text : String
  rest : List Glyph
  broken : Bool

/-- The scalar that ends here. -/
def endPlain (f : Folding) (gs : List Glyph) : Option Plain := some ⟨f.toString, gs, f.broken⟩

/-- Whether a text starts with a character that may not stand right behind a colon in a flow
collection. -/
def atColonEnd (gs : List Glyph) : Bool := atOneOf [',', '?', '[', ']', '\x7b', '\x7d'] gs

/-- The text up to the end of a plain scalar whose lines are indented by `indent` at least.
`spaced` tells whether spacing has just come before: only there a comment, a document marker or a
smaller indentation ends the scalar. -/
def plainFrom? (inFlow : Bool) (indent : Int) (f : Folding) (spaced : Bool) :
    List Glyph → Option Plain
  | [] => endPlain f []
  | g :: gs =>
    if g.isSpacing then
      -- tabs do not indent the further lines of a scalar
      if g.char = '\t' ∧ f.broken ∧ (g.column : Int) < indent then none
      else plainFrom? inFlow indent (f.spacing g) true gs
    else if spaced ∧ ((f.broken ∧ !inFlow ∧ (g.column : Int) < indent) ∨
        atDocumentBoundary (g :: gs) ∨ g.char = '#') then endPlain f (g :: gs)
    -- in a flow collection such a colon is neither text nor the end of a key
    else if inFlow ∧ g.char = ':' ∧ atColonEnd gs then none
    else if (g.char = ':' ∧ atSpacing gs) ∨ (inFlow ∧ isFlowIndicator g.char) then
      endPlain f (g :: gs)
    else plainFrom? inFlow indent (f.text g.char) false gs

/-- A plain scalar in front of a text. -/
def plain? (inFlow : Bool) (indent : Int) (gs : List Glyph) : Option Plain :=
  plainFrom? inFlow indent {} false gs

/-! ## Block scalars -/

/-- What becomes of the line breaks at the end of a block. -/
inductive Chomping where
  | strip
  | clip
  | keep

/-- The marks behind the indicator of a block: its chomping, and the indentation if it is given. -/
structure BlockHeader where
  chomping : Chomping := .clip
  indent : Option Nat := none

def chomping? : List Glyph → Option (Chomping × List Glyph)
  | [] => none
  | g :: gs =>
    if g.char = '+' then some (.keep, gs)
    else if g.char = '-' then some (.strip, gs)
    else none

/-- A digit that gives an indentation; nothing at all for a zero. -/
def blockIndent? : List Glyph → Option (Option Nat × List Glyph)
  | [] => some (none, [])
  | g :: gs =>
    if g.char.isDigit then
      if g.char = '0' then none else some (some (JsonText.digitValue g.char), gs)
    else some (none, g :: gs)

/-- The marks of a block, in either order, with the rest of their line. -/
def blockHeader? (gs : List Glyph) : Option (BlockHeader × List Glyph) := do
  let (header, rest) ← match chomping? gs with
    | some (chomping, rest) => do
      let (indent, rest) ← blockIndent? rest
      pure ({ chomping, indent : BlockHeader }, rest)
    | none => do
      let (indent, rest) ← blockIndent? gs
      match indent, chomping? rest with
      | some _, some (chomping, rest) => pure ({ chomping, indent : BlockHeader }, rest)
      | _, _ => pure ({ indent : BlockHeader }, rest)
  let rest := skipComment (skipBlanks rest)
  if atLineEnd rest then return (header, rest.drop 1) else none

/-- Empty lines in front of a text, as their breaks in reverse, with the widest indentation met.
Without a known indentation all spaces count as such. A tab in place of a space is an error. -/
def emptyLines? (indent : Option Nat) (widest : Nat) (breaks : List Char) :
    List Glyph → Option (List Char × Nat × List Glyph)
  | [] => some (breaks, widest, [])
  | g :: gs =>
    let inside : Bool := indent.all fun n => g.column < n
    if inside && g.char = ' ' then emptyLines? indent widest breaks gs
    else if inside && g.char = '\t' then none
    else if g.isBreak then emptyLines? indent (max widest g.column) (g.char :: breaks) gs
    else some (breaks, max widest g.column, g :: gs)

/-- A block that is being read. The texts are in reverse. -/
structure Block where
  done : List Char := []
  /-- the break at the end of the last line -/
  lastBreak : List Char := []
  /-- the empty lines after it -/
  empty : List Char
  /-- whether the last line began with a blank -/
  wasIndented : Bool := false

namespace Block

/-- A line of the block. In a folded block a break between two lines that do not begin with a
blank becomes a space, or nothing if empty lines follow it. -/
def line (b : Block) (folded : Bool) (content : List Glyph) (lineBreak : List Char)
    (empty : List Char) : Block :=
  let isIndented := content.head?.any Glyph.isBlank
  let joint :=
    if folded && b.lastBreak = ['\n'] && !b.wasIndented && !isIndented then
      if b.empty.isEmpty then [' '] else b.empty
    else b.empty ++ b.lastBreak
  { done := (content.map Glyph.char).reverse ++ joint ++ b.done, lastBreak := lineBreak, empty,
    wasIndented := isIndented }

/-- The text of the block. -/
def toString (b : Block) (chomping : Chomping) : String :=
  let tail := match chomping with
    | .strip => []
    | .clip => b.lastBreak
    | .keep => b.empty ++ b.lastBreak
  String.ofList (tail ++ b.done).reverse

end Block

/-- The lines of a block that are indented by `indent`. -/
def blockLines? (folded : Bool) (indent : Nat) :
    Nat → Block → List Glyph → Option (Block × List Glyph)
  | 0, b, gs => some (b, gs)
  | _, b, [] => some (b, [])
  | fuel + 1, b, g :: gs => do
    if g.column ≠ indent then return (b, g :: gs)
    else
      let content := (g :: gs).takeWhile fun g => !g.isBreak
      let rest := (g :: gs).dropWhile fun g => !g.isBreak
      let lineBreak := (rest.take 1).map Glyph.char
      let (empty, _, rest) ← emptyLines? (some indent) 0 [] (rest.drop 1)
      blockLines? folded indent fuel (b.line folded content lineBreak empty) rest

/-- A block scalar behind its indicator, in a collection that is indented by `parent` (`-1` outside
of any). If its indentation is not given, its first line that is not empty shows it. -/
def block? (folded : Bool) (parent : Int) (gs : List Glyph) : Option (String × List Glyph) := do
  let (header, rest) ← blockHeader? gs
  let known := header.indent.map fun n => if 0 ≤ parent then parent.toNat + n else n
  let (empty, widest, rest) ← emptyLines? known 0 [] rest
  let indent := known.getD (max (max widest (parent + 1).toNat) 1)
  let (b, rest) ← blockLines? folded indent gs.length { empty } rest
  return (b.toString header.chomping, rest)

end Token

end Casewise.Yaml
