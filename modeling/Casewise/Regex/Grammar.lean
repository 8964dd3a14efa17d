import Casewise.Json.Text
import Casewise.Regex.Syntax
import Casewise.Text.Blank
import Casewise.Text.Letter

/-!
# The grammar of regular expressions

Every reader returns what stands in front of a text and what is left behind it, or nothing if that
is no regular expression. Where the flag `x` holds, blanks and comments between the parts do not
count; the readers take it as `free`.

* `Regex.escape?` — what a backslash begins.
* `Regex.brackets?` — a class in brackets, with its nested classes and operators.
* `Regex.group?` — an expression up to the end of its group.
* `Regex.ofText?` — the expression that a text spells.
-/

namespace Casewise.Regex

/-! ## Blanks -/

/-- The text without the blanks and comments in front that do not count. -/
def skip (free : Bool) (inComment : Bool) : List Char → List Char
  | [] => []
  | c :: cs =>
    if inComment then skip free (c ≠ '\n') cs
    else if free && Char.isBlank c then skip free false cs
    else if free && c = '#' then skip free true cs
    else c :: cs

/-- The text behind a character, blanks and comments passed over; there must be some. -/
def behind? (free : Bool) (cs : List Char) : Option (List Char) :=
  match skip free false cs with
  | [] => none
  | cs => some cs

/-- The character behind a hyphen. Of a comment only the mark is passed over. -/
def afterHyphen? (free : Bool) (cs : List Char) : Option Char :=
  if free then
    match cs.dropWhile Char.isBlank with
    | '#' :: cs => (cs.dropWhile Char.isBlank).head?
    | cs => cs.head?
  else cs.head?

/-! ## Escapes -/

/-- What a backslash begins, and what may stand on its own in a class. -/
inductive Primitive where
  | literal (l : Literal)
  | assertion (a : Assertion)
  | named (negated : Bool) (c : NamedClass)
  | property (negated : Bool) (q : PropertyQuery)

/-- The character with a code point, unless there is none. -/
def charOfCode? (digits : List Char) : Option Char := do
  let code ← digits.foldlM (fun n c => do return 16 * n + (← JsonText.hexValue? c)) 0
  if code.isValidChar then some (Char.ofNat code) else none

/-- A given number of hexadecimal digits; the first is in front. -/
def hexDigits? (free : Bool) : Nat → List Char → Option (List Char × List Char)
  | 0, cs => some ([], cs)
  | _ + 1, [] => none
  | n + 1, c :: cs => do
    let _ ← JsonText.hexValue? c
    let rest ← if n = 0 then some (skip free false cs) else behind? free cs
    let (digits, rest) ← hexDigits? free n rest
    return (c :: digits, rest)

/-- Everything up to a closing brace, the blanks that do not count left out. -/
def braced? (free : Bool) : Nat → List Char → Option (List Char × List Char)
  | 0, _ => none
  | fuel + 1, cs => do
    match ← behind? free cs with
    | '\x7d' :: rest => return ([], rest)
    | c :: cs =>
      let (content, rest) ← braced? free fuel cs
      return (c :: content, rest)
    | [] => none

/-- A code point in hexadecimal behind its mark: `width` digits, or any number in braces. -/
def codePoint? (free : Bool) (width : Nat) (cs : List Char) : Option (Literal × List Char) := do
  match ← behind? free cs with
  | '\x7b' :: cs =>
    let (digits, rest) ← braced? free (cs.length + 1) cs
    if digits.isEmpty then none else return ({ char := ← charOfCode? digits }, skip free false rest)
  | cs =>
    let (digits, rest) ← hexDigits? free width cs
    return ({ char := ← charOfCode? digits, isByte := width == 2 }, rest)

/-- The text before and behind the first place where a text stands. -/
def splitAt? (mark : List Char) : List Char → Option (List Char × List Char)
  | [] => none
  | c :: cs =>
    if mark.isPrefixOf (c :: cs) then some ([], (c :: cs).drop mark.length)
    else (splitAt? mark cs).map fun (before, after) => (c :: before, after)

/-- The property that a text names, or the value of one behind a mark. -/
def propertyOf (content : List Char) : PropertyQuery :=
  let marks : List (List Char) := [['!', '='], [':'], ['=']]
  match marks.findSome? fun mark => splitAt? mark content with
  | some (name, value) => .valued (String.ofList name) (String.ofList value)
  | none => .named (String.ofList content)

/-- A property behind its mark: one letter, or a name in braces. -/
def property? (free : Bool) (cs : List Char) : Option (PropertyQuery × List Char) := do
  match ← behind? free cs with
  | '\x7b' :: cs =>
    let (content, rest) ← braced? free (cs.length + 1) cs
    return (propertyOf content, rest)
  | c :: cs => if c = '\\' then none else return (.named (String.ofList [c]), skip free false cs)
  | [] => none

/-- A letter of the name of a boundary. -/
def isBoundaryChar (c : Char) : Bool := c.isAlpha || c = '-'

/-- The rest of the name of a boundary, with its closing brace. -/
def boundaryName? (free : Bool) : Nat → List Char → Option (List Char × List Char)
  | 0, _ => none
  | _ + 1, [] => none
  | fuel + 1, c :: cs =>
    if c = '\x7d' then some ([], cs)
    else if isBoundaryChar c then do
      let (name, rest) ← boundaryName? free fuel (skip free false cs)
      return (c :: name, rest)
    else none

/-- The boundary of a word on one side, by its name. -/
def Boundary.ofName? : String → Option Boundary
  | "start" => some .start
  | "end" => some .finish
  | "start-half" => some .halfStart
  | "end-half" => some .halfFinish
  | _ => none

/-- A boundary of a word behind its mark. Braces with a letter in front name a side; others belong
to a repetition. -/
def boundary? (free : Bool) : List Char → Option (Boundary × List Char)
  | '\x7b' :: cs => do
    let inside ← behind? free cs
    if inside.head?.any isBoundaryChar then
      let (name, rest) ← boundaryName? free (inside.length + 1) inside
      return (← Boundary.ofName? (String.ofList name), rest)
    else return (.edge, '\x7b' :: cs)
  | cs => some (.edge, cs)

/-- What stands behind a backslash. Any character of ASCII may be escaped that is no letter, digit
or angle bracket. -/
def escape? (free : Bool) : List Char → Option (Primitive × List Char)
  | [] => none
  | c :: cs =>
    let plain (c : Char) : Option (Primitive × List Char) := some (.literal { char := c }, cs)
    let code (width : Nat) : Option (Primitive × List Char) :=
      (codePoint? free width cs).map fun (l, rest) => (.literal l, rest)
    let property (negated : Bool) : Option (Primitive × List Char) :=
      (property? free cs).map fun (q, rest) => (.property negated q, rest)
    let assertion (a : Assertion) : Option (Primitive × List Char) := some (.assertion a, cs)
    match c with
    | 'x' => code 2
    | 'u' => code 4
    | 'U' => code 8
    | 'p' => property false
    | 'P' => property true
    | 'd' => some (.named false .digit, cs)
    | 's' => some (.named false .blank, cs)
    | 'w' => some (.named false .word, cs)
    | 'D' => some (.named true .digit, cs)
    | 'S' => some (.named true .blank, cs)
    | 'W' => some (.named true .word, cs)
    | 'a' => plain '\x07'
    | 'f' => plain '\x0c'
    | 't' => plain '\t'
    | 'n' => plain '\n'
    | 'r' => plain '\r'
    | 'v' => plain '\x0b'
    | 'A' => assertion .textStart
    | 'z' => assertion .textEnd
    | 'B' => assertion (.boundary .inside)
    | '<' => assertion (.boundary .start)
    | '>' => assertion (.boundary .finish)
    | 'b' => (boundary? free cs).map fun (b, rest) => (.assertion (.boundary b), rest)
    | c => if c.toNat < 0x80 && !c.isAlphanum then plain c else none

/-! ## Classes in brackets -/

/-- A class of ASCII behind its bracket: a name between colons, a caret in front negates it. -/
def asciiClass? : List Char → Option (ClassSet × List Char)
  | ':' :: cs => do
    let (negated, cs) := match cs with
      | '^' :: cs => (true, cs)
      | cs => (false, cs)
    let name := cs.takeWhile (· ≠ ':')
    match cs.dropWhile (· ≠ ':') with
    | ':' :: ']' :: rest =>
      return (.named negated (← NamedClass.ofAsciiName? (String.ofList name)), rest)
    | _ => none
  | _ => none

/-- The parts of a class as one. -/
def ClassSet.ofParts : List ClassSet → ClassSet
  | [] => .empty
  | [s] => s
  | ss => .union ss

/-- The parts of a class, the last one first, joined with what stands before an operator. -/
def ClassSet.close (left : Option (SetOperator × ClassSet)) (parts : List ClassSet) : ClassSet :=
  let right := ClassSet.ofParts parts.reverse
  match left with
  | some (op, left) => .binary op left right
  | none => right

/-- A primitive as a part of a class: there are no assertions in one. -/
def Primitive.toClassSet? : Primitive → Option ClassSet
  | .literal l => some (.literal l)
  | .named negated c => some (.named negated c)
  | .property negated q => some (.property negated q)
  | .assertion _ => none

/-- A primitive as an end of a range. -/
def Primitive.literal? : Primitive → Option Literal
  | .literal l => some l
  | _ => none

/-- A character of a class or an escape. -/
def classPrimitive? (free : Bool) : List Char → Option (Primitive × List Char)
  | [] => none
  | '\\' :: cs => escape? free cs
  | c :: cs => some (.literal { char := c }, cs)

/-- A range, or a part of a class that is none. A hyphen before a closing bracket or another hyphen
makes no range. -/
def classRange? (free : Bool) (cs : List Char) : Option (ClassSet × List Char) := do
  let (first, rest) ← classPrimitive? free cs
  match ← behind? free rest with
  | '-' :: cs =>
    if afterHyphen? free cs = some ']' ∨ afterHyphen? free cs = some '-' then
      return (← first.toClassSet?, '-' :: cs)
    else
      let (last, rest) ← classPrimitive? free (← behind? free cs)
      let first ← first.literal?
      let last ← last.literal?
      if first.char ≤ last.char then return (.range first last, rest) else none
  | rest => return (← first.toClassSet?, rest)

/-- The hyphens at the start of a class, which stand for themselves. -/
def leadingHyphens? (free : Bool) :
    Nat → List ClassSet → List Char → Option (List ClassSet × List Char)
  | 0, _, _ => none
  | fuel + 1, parts, '-' :: cs => do
    leadingHyphens? free fuel (.literal { char := '-' } :: parts) (← behind? free cs)
  | _ + 1, parts, cs => some (parts, cs)

/-- The start of a class behind its bracket: whether it is negated, and the hyphens or the closing
bracket that stand for themselves there. -/
def openBrackets? (free : Bool) (cs : List Char) : Option (Bool × List ClassSet × List Char) := do
  let cs ← behind? free cs
  let (negated, cs) ← match cs with
    | '^' :: cs => (behind? free cs).map fun cs => (true, cs)
    | cs => some (false, cs)
  let (parts, cs) ← leadingHyphens? free (cs.length + 1) [] cs
  match parts, cs with
  | [], ']' :: cs => return (negated, [.literal { char := ']' }], ← behind? free cs)
  | _, _ => return (negated, parts, cs)

/-- The rest of a class up to its closing bracket. The operators all bind alike, to the left. -/
def brackets? (free : Bool) :
    Nat → (left : Option (SetOperator × ClassSet)) → (parts : List ClassSet) → List Char →
      Option (ClassSet × List Char)
  | 0, _, _, _ => none
  | fuel + 1, left, parts, cs => do
    let operator (op : SetOperator) (cs : List Char) : Option (ClassSet × List Char) :=
      brackets? free fuel (some (op, ClassSet.close left parts)) [] cs
    match ← behind? free cs with
    | ']' :: rest => return (ClassSet.close left parts, rest)
    | '&' :: '&' :: cs => operator .intersection cs
    | '-' :: '-' :: cs => operator .difference cs
    | '~' :: '~' :: cs => operator .symmetricDifference cs
    | '[' :: cs =>
      match asciiClass? cs with
      | some (s, rest) => brackets? free fuel left (s :: parts) rest
      | none =>
        let (negated, inner, rest) ← openBrackets? free cs
        let (s, rest) ← brackets? free fuel none inner rest
        brackets? free fuel left (.bracketed negated s :: parts) rest
    | cs =>
      let (s, rest) ← classRange? free cs
      brackets? free fuel left (s :: parts) rest

/-- A class behind its opening bracket. -/
def bracketed? (free : Bool) (cs : List Char) : Option (Regex × List Char) := do
  let (negated, parts, rest) ← openBrackets? free cs
  let (s, rest) ← brackets? free (cs.length + 1) none parts rest
  return (.bracketed negated s, rest)

/-! ## Repetitions -/

/-- The decimal digits in front of a text; blanks that do not count may stand between them. -/
def digitRun (free : Bool) : Nat → List Char → List Char × List Char
  | fuel + 1, c :: cs =>
    if c.isDigit then
      let (ds, rest) := digitRun free fuel (skip free false cs)
      (c :: ds, rest)
    else ([], c :: cs)
  | _, cs => ([], cs)

/-- A decimal number of 32 bits with blanks around it; nothing in place of it if no digit is there,
and nothing at all if it is too large. -/
def decimal? (free : Bool) (cs : List Char) : Option (Option Nat × List Char) :=
  let (ds, rest) := digitRun free cs.length (cs.dropWhile Char.isBlank)
  let rest := skip free false (rest.dropWhile Char.isBlank)
  let n := JsonText.natOfDigits ds
  if ds.isEmpty then some (none, rest)
  else if n < 1 <<< 32 then some (some n, rest)
  else none

/-- The bounds of a repetition behind its opening brace. -/
def bounds? (free : Bool) (cs : List Char) : Option ((Nat × Option Nat) × List Char) := do
  let (least, rest) ← decimal? free (← behind? free cs)
  let least ← least
  match rest with
  | ',' :: cs =>
    match ← behind? free cs with
    | '\x7d' :: rest => return ((least, none), rest)
    | cs =>
      let (most, rest) ← decimal? free cs
      let most ← most
      match rest with
      | '\x7d' :: rest => if least ≤ most then return ((least, some most), rest) else none
      | _ => none
  | '\x7d' :: rest => return ((least, some least), rest)
  | _ => none

/-- Whether a repetition is marked, and the text behind the mark. -/
def repetitionMark : List Char → Bool × List Char
  | '?' :: cs => (true, cs)
  | cs => (false, cs)

/-- The last part repeated; flags cannot be. -/
def repeatLast? (least : Nat) (most : Option Nat) (marked : Bool) :
    List Regex → Option (List Regex)
  | [] => none
  | .flags _ :: _ => none
  | r :: rs => some (.repetition least most marked r :: rs)

/-! ## Groups -/

/-- Flags up to the colon or parenthesis behind them, which is kept. `seen` holds those that came
before; the ones behind a hyphen are switched off. No flag and no hyphen may stand twice, and a
hyphen not at the end. -/
def flags? (seen : List Char) : List Char → Option (FlagChanges × List Char)
  | [] => none
  | c :: cs =>
    if c = ':' ∨ c = ')' then
      if seen.head? = some '-' then none else some ([], c :: cs)
    else if seen.contains c then none
    else if c = '-' then flags? (c :: seen) cs
    else do
      let flag ← Flag.ofChar? c
      let (changes, rest) ← flags? (c :: seen) cs
      return ((flag, !seen.contains '-') :: changes, rest)

/-- Whether a character may stand in the name of a group. -/
def isNameChar (first : Bool) (c : Char) : Bool :=
  if first then c = '_' || Char.isLetter c
  else ['_', '.', '[', ']'].contains c || Char.isLetter c || Char.isNumber c

/-- The name of a group, with its closing bracket; no two groups have one name. -/
def groupName? (names : List String) (cs : List Char) : Option (String × List Char) :=
  let name := cs.takeWhile (· ≠ '>')
  match name, cs.dropWhile (· ≠ '>') with
  | c :: more, _ :: rest =>
    if isNameChar true c && more.all (isNameChar false) && !names.contains (String.ofList name) then
      some (String.ofList name, rest)
    else none
  | _, _ => none

/-- Whether a group would look around, which is not possible. -/
def looksAround : List Char → Bool
  | '?' :: '=' :: _ => true
  | '?' :: '!' :: _ => true
  | '?' :: '<' :: '=' :: _ => true
  | '?' :: '<' :: '!' :: _ => true
  | _ => false

/-- How a group begins. -/
inductive Opening where
  | captured
  | namedAs (name : String)
  | flagged (changes : FlagChanges)
  /-- flags for the rest of the group around it -/
  | flagsOnly (changes : FlagChanges)

/-- The start of a group behind its parenthesis. -/
def opening? (free : Bool) (names : List String) (cs : List Char) :
    Option (Opening × List Char) := do
  let cs := skip free false cs
  if looksAround cs then none
  else
    match cs with
    | '?' :: 'P' :: '<' :: cs =>
      let (name, rest) ← groupName? names cs
      return (.namedAs name, rest)
    | '?' :: '<' :: cs =>
      let (name, rest) ← groupName? names cs
      return (.namedAs name, rest)
    | '?' :: cs =>
      match ← flags? [] cs with
      | (changes, ':' :: rest) => return (.flagged changes, rest)
      | (changes, _ :: rest) =>
        if cs.head? = some ')' then none else return (.flagsOnly changes, rest)
      | (_, []) => none
    | cs => return (.captured, cs)

/-! ## Expressions -/

/-- The parts of a sequence as one expression. -/
def ofParts : List Regex → Regex
  | [] => .empty
  | [r] => r
  | rs => .concat rs

/-- The branches and the parts of the last one, both the last one first, as one expression. -/
def close (branches parts : List Regex) : Regex :=
  let last := ofParts parts.reverse
  if branches.isEmpty then last else .alternation (last :: branches).reverse

/-- A primitive as an expression. -/
def Primitive.toRegex : Primitive → Regex
  | .literal l => .literal l
  | .assertion a => .assertion a
  | .named negated c => .named negated c
  | .property negated q => .property negated q

/-- The groups so far whose match is kept: how many there are, and the names of those with one. -/
structure Captures where
  count : Nat := 0
  names : List String := []

namespace Captures

/-- One more group, with or without a name. -/
def add (captures : Captures) (name : Option String) : Captures :=
  { count := captures.count + 1, names := name.toList ++ captures.names }

end Captures

/-- Whether blanks do not count behind some changes of flags. -/
def freeAfter (free : Bool) (changes : FlagChanges) : Bool := (changes.lookup .free).getD free

/-- An expression up to the end of its group, given what has been read of it and the groups so far.
The parenthesis behind it is kept. -/
def group? :
    Nat → (free : Bool) → (captures : Captures) → (branches parts : List Regex) → List Char →
      Option (Regex × Captures × List Char)
  | 0, _, _, _, _, _ => none
  | fuel + 1, free, captures, branches, parts, cs =>
    let part (r : Regex) (rest : List Char) : Option (Regex × Captures × List Char) :=
      group? fuel free captures branches (r :: parts) rest
    let repeated (least : Nat) (most : Option Nat) (rest : List Char) :
        Option (Regex × Captures × List Char) :=
      let (marked, rest) := repetitionMark rest
      (repeatLast? least most marked parts).bind fun parts =>
        group? fuel free captures branches parts rest
    let nested (free' : Bool) (inside : Captures) (wrap : Regex → Regex) (rest : List Char) :
        Option (Regex × Captures × List Char) := do
      let (r, captures, rest) ← group? fuel free' inside [] [] rest
      match rest with
      | ')' :: rest => group? fuel free captures branches (wrap r :: parts) rest
      | _ => none
    let capture (name : Option String) (rest : List Char) :
        Option (Regex × Captures × List Char) :=
      let inside := captures.add name
      nested free inside (.capture inside.count) rest
    match skip free false cs with
    | [] => some (close branches parts, captures, [])
    | ')' :: rest => some (close branches parts, captures, ')' :: rest)
    | '|' :: rest => group? fuel free captures (ofParts parts.reverse :: branches) [] rest
    | '(' :: rest => do
      match ← opening? free captures.names rest with
      | (.captured, rest) => capture none rest
      | (.namedAs name, rest) => capture (some name) rest
      | (.flagged changes, rest) =>
        nested (freeAfter free changes) captures (.group changes) rest
      | (.flagsOnly changes, rest) =>
        group? fuel (freeAfter free changes) captures branches (.flags changes :: parts) rest
    | '[' :: rest => do
      let (r, rest) ← bracketed? free rest
      part r rest
    | '?' :: rest => repeated 0 (some 1) rest
    | '*' :: rest => repeated 0 none rest
    | '+' :: rest => repeated 1 none rest
    | '\x7b' :: rest => do
      let ((least, most), rest) ← bounds? free rest
      repeated least most (skip free false rest)
    | '\\' :: rest => do
      let (p, rest) ← escape? free rest
      part p.toRegex rest
    | '.' :: rest => part .dot rest
    | '^' :: rest => part (.assertion .lineStart) rest
    | '$' :: rest => part (.assertion .lineEnd) rest
    | c :: rest => part (.literal { char := c }) rest

/-- The expression that a text spells. -/
def ofText? (s : String) : Option Regex :=
  let cs := s.toList
  match group? (cs.length + 1) false {} [] [] cs with
  | some (r, _, []) => some r
  | _ => none

end Casewise.Regex
