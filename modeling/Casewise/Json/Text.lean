import Casewise.Document

/-!
# JSON text

`Document.ofJsonText?` reads one JSON text, with nothing but blanks around it. Integers that fit in
64 bits are kept exactly, other numbers become the nearest double; a number beyond all doubles is
refused, as is nesting of 128 levels or more. An escaped surrogate must be one half of a pair. All
this holds of what the reader wants to know; an entry that nobody wants only has to be well formed.

* `JsonText.number?`, `JsonText.string?` — the scalars with content.
* `JsonText.skip?` — what follows a value that is passed over.
* `Interest` — what a reader wants to know.
* `JsonText.value?` — a value in front of a text, and what is left.
-/

namespace Casewise

namespace JsonText

def isBlank (c : Char) : Bool := c = ' ' || c = '\n' || c = '\t' || c = '\r'

def skipBlanks (cs : List Char) : List Char := cs.dropWhile isBlank

def digitValue (c : Char) : Nat := c.toNat - '0'.toNat

/-- The number that a run of decimal digits spells. -/
def natOfDigits (cs : List Char) : Nat := cs.foldl (fun n c => 10 * n + digitValue c) 0

/-- The decimal digits in front, and what is left. -/
def digits (cs : List Char) : List Char × List Char :=
  (cs.takeWhile Char.isDigit, cs.dropWhile Char.isDigit)

/-- An integer without sign: no digits in front of it may be zeros. -/
def whole? (cs : List Char) : Option (List Char × List Char) :=
  match digits cs with
  | ([], _) => none
  | ('0' :: _ :: _, _) => none
  | found => some found

/-- The digits behind a point, none without a point. -/
def fraction? : List Char → Option (Option (List Char) × List Char)
  | '.' :: cs =>
    match digits cs with
    | ([], _) => none
    | (ds, rest) => some (some ds, rest)
  | cs => some (none, cs)

/-- The exponent behind its mark, none without a mark. -/
def exponent? : List Char → Option (Option Int × List Char)
  | c :: cs =>
    if c = 'e' ∨ c = 'E' then
      let (negative, cs) := match cs with
        | '-' :: cs => (true, cs)
        | '+' :: cs => (false, cs)
        | cs => (false, cs)
      match digits cs with
      | ([], _) => none
      | (ds, rest) =>
        let n : Int := natOfDigits ds
        some (some (if negative then -n else n), rest)
    else some (none, c :: cs)
  | [] => some (none, [])

/-- A double, unless it is beyond all of them. -/
def finite? (x : Binary64) : Option Document := if x.isFinite then some (.real x) else none

/-- An integer that was written without fraction and exponent. A negative zero is a double. -/
def integer? (negative : Bool) (n : Nat) : Option Document :=
  let i : Int := if negative then -n else n
  if negative ∧ n = 0 then some (.real Binary64.negativeZero)
  else if fitsWord i then some (.int i)
  else finite? (.ofDecimal negative n 0)

/-- A number in front of a text. -/
def number? (cs : List Char) : Option (Document × List Char) := do
  let (negative, cs) := match cs with
    | '-' :: cs => (true, cs)
    | cs => (false, cs)
  let (whole, cs) ← whole? cs
  let (fraction, cs) ← fraction? cs
  let (exponent, cs) ← exponent? cs
  match fraction, exponent with
  | none, none => return (← integer? negative (natOfDigits whole), cs)
  | _, _ =>
    let places := fraction.getD []
    let scale := exponent.getD 0 - places.length
    return (← finite? (.ofDecimal negative (natOfDigits (whole ++ places)) scale), cs)

def hexValue? (c : Char) : Option Nat :=
  if '0' ≤ c ∧ c ≤ '9' then some (c.toNat - '0'.toNat)
  else if 'a' ≤ c ∧ c ≤ 'f' then some (c.toNat - 'a'.toNat + 10)
  else if 'A' ≤ c ∧ c ≤ 'F' then some (c.toNat - 'A'.toNat + 10)
  else none

/-- Four hexadecimal digits in front of a text. -/
def unit? : List Char → Option (Nat × List Char)
  | a :: b :: c :: d :: cs => do
    let a ← hexValue? a
    let b ← hexValue? b
    let c ← hexValue? c
    let d ← hexValue? d
    return (4096 * a + 256 * b + 16 * c + d, cs)
  | _ => none

/-- The character that one escaped unit or two spell, the first mark already read. -/
def escapedUnits? (cs : List Char) : Option (Char × List Char) := do
  let (high, cs) ← unit? cs
  if 0xD800 ≤ high ∧ high < 0xDC00 then
    -- the first half of a character, which needs the second one right behind it
    match cs with
    | '\\' :: 'u' :: cs =>
      let (low, cs) ← unit? cs
      if 0xDC00 ≤ low ∧ low < 0xE000 then
        return (Char.ofNat (0x10000 + (high - 0xD800) * 1024 + (low - 0xDC00)), cs)
      else none
    | _ => none
  -- a second half alone
  else if 0xDC00 ≤ high ∧ high < 0xE000 then none
  else return (Char.ofNat high, cs)

/-- The character behind a backslash. -/
def escaped? : List Char → Option (Char × List Char)
  | '"' :: cs => some ('"', cs)
  | '\\' :: cs => some ('\\', cs)
  | '/' :: cs => some ('/', cs)
  | 'b' :: cs => some ('\x08', cs)
  | 'f' :: cs => some ('\x0c', cs)
  | 'n' :: cs => some ('\n', cs)
  | 'r' :: cs => some ('\r', cs)
  | 't' :: cs => some ('\t', cs)
  | 'u' :: cs => escapedUnits? cs
  | _ => none

/-- The characters up to the closing quote, collected in reverse. -/
def stringTail? : Nat → List Char → List Char → Option (String × List Char)
  | 0, _, _ => none
  | _, _, [] => none
  | _, found, '"' :: cs => some (String.ofList found.reverse, cs)
  | fuel + 1, found, '\\' :: cs => do
    let (c, cs) ← escaped? cs
    stringTail? fuel (c :: found) cs
  | fuel + 1, found, c :: cs =>
    if c < ' ' then none else stringTail? fuel (c :: found) cs

/-- A string in front of a text, the opening quote already read. -/
def string? (cs : List Char) : Option (String × List Char) := stringTail? (cs.length + 1) [] cs

/-! ## Values that are passed over -/

/-- The text behind the closing quote of a string of which only the form counts: an escaped unit
need not be a character. -/
def skipString? : Nat → List Char → Option (List Char)
  | 0, _ => none
  | _, [] => none
  | _, '"' :: cs => some cs
  | fuel + 1, '\\' :: 'u' :: cs => (unit? cs).bind fun found => skipString? fuel found.2
  | fuel + 1, '\\' :: c :: cs => (escaped? [c]).bind fun _ => skipString? fuel cs
  | fuel + 1, c :: cs => if c < ' ' then none else skipString? fuel cs

/-- The text behind a number of any size. -/
def skipNumber? (cs : List Char) : Option (List Char) := do
  let (_, cs) ← whole? (if cs.head? = some '-' then cs.tail else cs)
  let (_, cs) ← fraction? cs
  let (_, cs) ← exponent? cs
  return cs

/-- The text behind a word. -/
def skipWord? (word : String) (cs : List Char) : Option (List Char) :=
  if word.toList.isPrefixOf cs then some (cs.drop word.length) else none

/-- The text behind the name of a member and its colon. -/
def skipName? (cs : List Char) : Option (List Char) :=
  match skipBlanks cs with
  | '"' :: cs => do
    match skipBlanks (← skipString? (cs.length + 1) cs) with
    | ':' :: cs => return cs
    | _ => none
  | _ => none

mutual

/-- The text behind a value and the brackets around it. `closing` holds what closes them, the
innermost first; they may be nested in any depth. -/
def skip? : Nat → (closing : List Char) → List Char → Option (List Char)
  | 0, _, _ => none
  | fuel + 1, closing, cs =>
    match skipBlanks cs with
    | '"' :: cs => (skipString? (cs.length + 1) cs).bind (skipRest? fuel closing)
    | '[' :: cs =>
      match skipBlanks cs with
      | ']' :: rest => skipRest? fuel closing rest
      | cs => skip? fuel (']' :: closing) cs
    | '\x7b' :: cs =>
      match skipBlanks cs with
      | '\x7d' :: rest => skipRest? fuel closing rest
      | cs => (skipName? cs).bind (skip? fuel ('\x7d' :: closing))
    | 'n' :: cs => (skipWord? "ull" cs).bind (skipRest? fuel closing)
    | 't' :: cs => (skipWord? "rue" cs).bind (skipRest? fuel closing)
    | 'f' :: cs => (skipWord? "alse" cs).bind (skipRest? fuel closing)
    | cs => (skipNumber? cs).bind (skipRest? fuel closing)

/-- The text behind the brackets around a value that has been passed over. -/
def skipRest? : Nat → (closing : List Char) → List Char → Option (List Char)
  | 0, _, _ => none
  | _, [], cs => some cs
  | fuel + 1, c :: closing, cs =>
    match skipBlanks cs with
    | ',' :: cs =>
      if c = ']' then skip? fuel (c :: closing) cs
      else (skipName? cs).bind (skip? fuel (c :: closing))
    | d :: cs => if d = c then skipRest? fuel closing cs else none
    | [] => none

end

end JsonText

/-! ## Values -/

/-- What a reader wants to know of a text. Of all else only the form counts. -/
inductive Interest where
  | all
  /-- a structure: the entries of a table that have these names, or the items of a list in this
  order -/
  | fields (fs : List (String × Interest))
  /-- a list, of each item the same -/
  | items (each : Interest)

namespace Interest

/-- What is wanted of the first items of a list. -/
def ofFirstItems : Interest → List Interest
  | .fields fs => fs.map Prod.snd
  | _ => []

/-- What is wanted of all other items. -/
def ofOtherItems : Interest → Interest
  | .items each => each
  | _ => .all

/-- What is wanted of the entry of a table, if anything is. -/
def ofEntry (name : String) : Interest → Option Interest
  | .fields fs => fs.lookup name
  | _ => some .all

end Interest

namespace JsonText

/-- Reads `word` in front of a text as the document `d`. -/
def word? (word : String) (d : Document) (cs : List Char) : Option (Document × List Char) :=
  (skipWord? word cs).map fun rest => (d, rest)

mutual

/-- A value in front of a text, blanks before it skipped, with `depth` levels of nesting left. -/
def value? : Nat → Interest → Nat → List Char → Option (Document × List Char)
  | 0, _, _, _ => none
  | fuel + 1, i, depth, cs =>
    match skipBlanks cs with
    | '"' :: cs => (string? cs).map fun (s, rest) => (.text s, rest)
    | '[' :: cs =>
      if depth ≤ 1 then none
      else
        match skipBlanks cs with
        | ']' :: rest => some (.list [], rest)
        | cs =>
          (items? fuel i.ofFirstItems i.ofOtherItems (depth - 1) cs).map fun (ds, rest) =>
            (.list ds, rest)
    | '\x7b' :: cs =>
      if depth ≤ 1 then none
      else
        match skipBlanks cs with
        | '\x7d' :: rest => some (.table [], rest)
        | cs => (members? fuel i (depth - 1) cs).map fun (es, rest) => (.table es, rest)
    | 'n' :: cs => word? "ull" .null cs
    | 't' :: cs => word? "rue" (.bool true) cs
    | 'f' :: cs => word? "alse" (.bool false) cs
    | cs => number? cs

/-- One item or more up to the closing bracket. -/
def items? :
    Nat → (first : List Interest) → (other : Interest) → Nat → List Char →
      Option (List Document × List Char)
  | 0, _, _, _, _ => none
  | fuel + 1, first, other, depth, cs => do
    let (d, cs) ← value? fuel (first.headD other) depth cs
    match skipBlanks cs with
    | ',' :: cs =>
      let (ds, rest) ← items? fuel first.tail other depth cs
      return (d :: ds, rest)
    | ']' :: rest => return ([d], rest)
    | _ => none

/-- One member or more up to the closing brace; those that nobody wants are passed over. -/
def members? : Nat → Interest → Nat → List Char → Option (List (Document × Document) × List Char)
  | 0, _, _, _ => none
  | fuel + 1, i, depth, cs => do
    match skipBlanks cs with
    | '"' :: cs =>
      let (key, cs) ← string? cs
      match skipBlanks cs with
      | ':' :: cs =>
        -- of a member that nobody wants only the form counts
        let (found, cs) ← match i.ofEntry key with
          | some wanted => do
            let (d, cs) ← value? fuel wanted depth cs
            pure ([(.text key, d)], cs)
          | none => do pure ([], ← skip? (2 * cs.length + 2) [] cs)
        match skipBlanks cs with
        | ',' :: cs =>
          let (es, rest) ← members? fuel i depth cs
          return (found ++ es, rest)
        | '\x7d' :: rest => return (found, rest)
        | _ => none
      | _ => none
    | _ => none

end

end JsonText

/-- The document that a JSON text spells, without the entries that nobody wants. -/
def Document.ofJsonText? (wanted : Interest) (s : String) : Option Document :=
  let cs := s.toList
  match JsonText.value? (2 * cs.length + 2) wanted 128 cs with
  | some (d, rest) => if (JsonText.skipBlanks rest).isEmpty then some d else none
  | none => none

end Casewise
