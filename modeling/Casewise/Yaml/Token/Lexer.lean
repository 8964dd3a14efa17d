import Casewise.Yaml.Token.Property
import Casewise.Yaml.Token.Scalar

/-!
# From text to tokens

Block structure is not written with brackets but follows from columns, and a key is known as one
only when the colon behind it is met. So the lexer keeps the columns of the open block collections
and remembers where a key may have started; the tokens of a key, and of the mapping that it opens,
are put in at that place afterwards.

* `PendingKey` — where a key may have started. It must end on the same line and within 1024
  bytes.
* `Lexer` — the tokens so far, the open collections and the pending keys, one for each level of
  flow collections.
* `Token.ofText?` — the tokens of a text.
-/

namespace Casewise.Yaml

/-- A place where a key may have started. -/
structure PendingKey where
  /-- how many tokens came before it -/
  position : Nat
  offset : Nat
  line : Nat
  column : Nat
  /-- whether nothing but a key can stand there -/
  required : Bool

/-- Whether a pending key can no longer end at a place. -/
def PendingKey.isStale (k : PendingKey) (g : Glyph) : Bool :=
  k.line < g.line || k.offset + 1024 < g.offset

/-- The state between two tokens. -/
structure Lexer where
  /-- the tokens so far, the last one first -/
  tokens : List Token := []
  /-- how many they are -/
  count : Nat := 0
  /-- the column of the innermost open block collection, `-1` without one -/
  indent : Int := -1
  /-- the columns of the collections around it, the innermost first -/
  outer : List Int := []
  /-- the pending key of this level -/
  key : Option PendingKey := none
  /-- the pending keys of the levels around it, the innermost first; one for each open flow
  collection -/
  outerKeys : List (Option PendingKey) := []
  /-- whether a key may start here -/
  keyAllowed : Bool := true

namespace Lexer

/-- Whether a flow collection is open. -/
def inFlow (l : Lexer) : Bool := !l.outerKeys.isEmpty

/-- Puts a token behind all others. -/
def push (l : Lexer) (t : Token) : Lexer :=
  { l with tokens := t :: l.tokens, count := l.count + 1 }

/-- Puts a token in after the first `position` tokens. -/
def insertAt (l : Lexer) (position : Nat) (t : Token) : Lexer :=
  -- the tokens are kept in reverse, so those behind the place come first
  let later := l.count - position
  { l with tokens := l.tokens.take later ++ t :: l.tokens.drop later, count := l.count + 1 }

/-! ## Pending keys -/

/-- Gives up the pending key of this level. -/
def dropKey? (l : Lexer) : Option Lexer :=
  if l.key.any (·.required) then none else some { l with key := none }

/-- Remembers that a key may start here, if one may. -/
def saveKey? (l : Lexer) (g : Glyph) : Option Lexer :=
  if l.keyAllowed then do
    let required := !l.inFlow && l.indent == g.column
    let l ← l.dropKey?
    return { l with key := some ⟨l.count, g.offset, g.line, g.column, required⟩ }
  else some l

/-- The pending key as it stands at a place; nothing at all if it was required. -/
def refreshKey? (k : Option PendingKey) (g : Glyph) : Option (Option PendingKey) :=
  match k with
  | some k => if k.isStale g then if k.required then none else some none else some (some k)
  | none => some none

/-- Gives up the keys that can no longer end. -/
def refresh? (l : Lexer) (g : Glyph) : Option Lexer := do
  let outerKeys ← l.outerKeys.mapM fun k => refreshKey? k g
  return { l with key := ← refreshKey? l.key g, outerKeys }

/-! ## Block collections -/

/-- Closes the block collections whose columns lie to the right of `column`. -/
def closeBlocks (l : Lexer) (column : Int) : Lexer :=
  if l.inFlow then l
  else
    let open' := l.indent :: l.outer
    let closed := open'.takeWhile (column < ·)
    let left := open'.dropWhile (column < ·)
    let l := closed.foldl (fun l _ => l.push .blockEnd) l
    { l with indent := left.headD (-1), outer := left.tail }

/-- Opens a block collection at a column, with its token after the first `position` tokens, unless
a collection is open there already. -/
def openBlock (l : Lexer) (column position : Nat) (t : Token) : Lexer :=
  if !l.inFlow && l.indent < column then
    { l.insertAt position t with indent := column, outer := l.indent :: l.outer }
  else l

/-! ## One token -/

/-- A line break between two tokens: outside of flow collections a key may start behind it. -/
def breakLine (l : Lexer) : Lexer := { l with keyAllowed := l.keyAllowed || !l.inFlow }

/-- Passes over blanks, comments and line breaks, and over a byte order mark in front of a line.
Tabs count as blanks only where no key can start. -/
def skipSpacing (inComment : Bool) (l : Lexer) : List Glyph → Lexer × List Glyph
  | [] => (l, [])
  | g :: gs =>
    if g.isBreak then skipSpacing false l.breakLine gs
    else if inComment ∨ g.char = '#' then skipSpacing true l gs
    else if g.isOrderMark then skipSpacing false l gs
    else if g.char = ' ' ∨ (g.char = '\t' ∧ (l.inFlow ∨ !l.keyAllowed)) then
      skipSpacing false l gs
    else (l, g :: gs)

/-- A directive or a marker of a document ends all block collections. -/
def endBlocks? (l : Lexer) : Option Lexer := do
  let l ← (l.closeBlocks (-1)).dropKey?
  return { l with keyAllowed := false }

/-- The token that opens a flow collection. The collection may be a key as a whole. -/
def openFlow? (l : Lexer) (g : Glyph) (t : Token) : Option Lexer := do
  let l ← l.saveKey? g
  return { l.push t with key := none, outerKeys := l.key :: l.outerKeys, keyAllowed := true }

/-- The token that closes a flow collection. -/
def closeFlow? (l : Lexer) (t : Token) : Option Lexer := do
  let l ← l.dropKey?
  let l := { l.push t with keyAllowed := false }
  match l.outerKeys with
  | [] => return l
  | key :: outerKeys => return { l with key, outerKeys }

/-- The comma between the items of a flow collection. -/
def separator? (l : Lexer) : Option Lexer := do
  let l ← l.dropKey?
  return { l.push .separator with keyAllowed := true }

/-- The hyphen before an item. It opens a block sequence where its column asks for one. -/
def item? (l : Lexer) (g : Glyph) : Option Lexer := do
  if !l.inFlow && !l.keyAllowed then none
  else
    let l ← (l.openBlock g.column l.count .blockSequence).dropKey?
    return { l.push .item with keyAllowed := true }

/-- The question mark before a key. -/
def explicitKey? (l : Lexer) (g : Glyph) : Option Lexer := do
  if !l.inFlow && !l.keyAllowed then none
  else
    let l ← (l.openBlock g.column l.count .blockMapping).dropKey?
    return { l.push .key with keyAllowed := !l.inFlow }

/-- The colon before a value. It makes a key of what is pending. -/
def value? (l : Lexer) (g : Glyph) : Option Lexer := do
  match l.key with
  | some k =>
    let l := (l.insertAt k.position .key).openBlock k.column k.position .blockMapping
    return { l.push .value with key := none, keyAllowed := false }
  | none =>
    if !l.inFlow && !l.keyAllowed then none
    else
      let l := l.openBlock g.column l.count .blockMapping
      return { l.push .value with keyAllowed := !l.inFlow }

/-- A token that may start a key and is not one itself. -/
def content? (l : Lexer) (g : Glyph) (t : Token) : Option Lexer := do
  let l ← l.saveKey? g
  return { l.push t with keyAllowed := false }

/-- A plain scalar. A key may start behind it if the line has been broken since. -/
def plain? (l : Lexer) (g : Glyph) (gs : List Glyph) : Option (Lexer × List Glyph) := do
  let p ← Token.plain? l.inFlow (l.indent + 1) (g :: gs)
  let l ← l.content? g (.scalar p.text true)
  return ({ l with keyAllowed := p.broken }, p.rest)

/-- A block scalar. -/
def block? (l : Lexer) (folded : Bool) (gs : List Glyph) : Option (Lexer × List Glyph) := do
  let l ← l.dropKey?
  let (text, rest) ← Token.block? folded l.indent gs
  return ({ l.push (.scalar text false) with keyAllowed := true }, rest)

/-- The characters that no plain scalar starts with. -/
def indicators : List Char :=
  [',', '[', ']', '\x7b', '\x7d', '#', '&', '*', '!', '|', '>', '\'', '"', '%', '@', '\x60']

/-- Whether a plain scalar may start with a character, given what follows. Three indicators may
start one if no blank follows. -/
def startsPlain (l : Lexer) (g : Glyph) (gs : List Glyph) : Bool :=
  if g.char = '-' then !gs.head?.any Glyph.isBlank
  else if g.char = '?' ∨ g.char = ':' then !l.inFlow && !atSpacing gs
  else !g.isSpacing && !indicators.contains g.char

/-- The token in front of a text, all spacing before it passed over. -/
def next? (l : Lexer) (g : Glyph) (gs : List Glyph) : Option (Lexer × List Glyph) := do
  let l := (← l.refresh? g).closeBlocks g.column
  let alone (l : Option Lexer) : Option (Lexer × List Glyph) := l.map fun l => (l, gs)
  let text (found : Option (String × List Glyph)) (token : String → Token) :
      Option (Lexer × List Glyph) := do
    let (s, rest) ← found
    return (← l.content? g (token s), rest)
  -- directives and the markers of documents end all that is open
  if g.column = 0 ∧ g.char = '%' then
    let l ← l.endBlocks?
    let (t, rest) ← Token.directive? gs
    return (l.push t, rest)
  else if atMarker '-' (g :: gs) then
    return ((← l.endBlocks?).push .documentStart, gs.drop 2)
  else if atMarker '.' (g :: gs) then
    return ((← l.endBlocks?).push .documentEnd, gs.drop 2)
  else
    match g.char with
    | '[' => alone (l.openFlow? g .flowSequence)
    | '\x7b' => alone (l.openFlow? g .flowMapping)
    | ']' => alone (l.closeFlow? .flowSequenceEnd)
    | '\x7d' => alone (l.closeFlow? .flowMappingEnd)
    | ',' => alone l.separator?
    | '*' => text (Token.name? gs) .alias
    | '&' => text (Token.name? gs) .anchor
    | '\'' => text (Token.singleQuoted? gs) (.scalar · false)
    | '"' => text (Token.doubleQuoted? gs) (.scalar · false)
    | '!' =>
      let (t, rest) ← Token.tag? l.inFlow gs
      return (← l.content? g t, rest)
    | c =>
      -- three characters are indicators only with spacing behind them or in a flow collection
      if c = '-' ∧ atSpacing gs then alone (l.item? g)
      else if c = '?' ∧ (l.inFlow ∨ atSpacing gs) then alone (l.explicitKey? g)
      else if c = ':' ∧ (l.inFlow ∨ atSpacing gs) then alone (l.value? g)
      else if c = '|' ∧ !l.inFlow then l.block? false gs
      else if c = '>' ∧ !l.inFlow then l.block? true gs
      else if l.startsPlain g gs then l.plain? g gs
      else none

/-- The tokens of the rest of a text. Every token takes a character at least. -/
def run? : Nat → Lexer → List Glyph → Option (List Token)
  | fuel, l, gs =>
    match skipSpacing false l gs with
    | (l, []) => do
      let l ← l.endBlocks?
      return l.tokens.reverse
    | (l, g :: gs) =>
      match fuel with
      | 0 => none
      | fuel + 1 => do
        let (l, rest) ← l.next? g gs
        run? fuel l rest

end Lexer

/-- The tokens of a text. -/
def Token.ofText? (s : String) : Option (List Token) := do
  let gs ← Glyph.ofText? s
  Lexer.run? gs.length {} gs

end Casewise.Yaml
