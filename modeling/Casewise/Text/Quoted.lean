import Casewise.Text.Unprintable
import Casewise.Text.Extending

/-!
# Quoted text

A text inside a rendering stands between double quotes. A quote, a backslash and the usual control
characters have a two-character escape; any other character that would not be seen, or would be
drawn on its neighbour, is written as its code point in braces; everything else stands for itself.

* `Quoted.escape` — the spelling of one character.
* `Quoted.encode` — the quoted text.
-/

namespace Casewise.Quoted

/-- The lower-case hexadecimal digits of a number, without leading zeros. -/
def hexadecimal (n : Nat) : List Char := Nat.toDigits 16 n

/-- The same with zeros in front up to `width` digits. -/
def paddedHexadecimal (width n : Nat) : List Char :=
  List.replicate (width - (hexadecimal n).length) '0' ++ hexadecimal n

/-- The spelling of a character inside quotes. -/
def escape (c : Char) : List Char :=
  match c with
  | '"' => ['\\', '"']
  | '\\' => ['\\', '\\']
  | '\n' => ['\\', 'n']
  | '\r' => ['\\', 'r']
  | '\t' => ['\\', 't']
  | '\x00' => ['\\', '0']
  | c =>
    if ' ' ≤ c ∧ c ≤ '~' then [c]
    else if Char.isExtending c || Char.isUnprintable c then
      ['\\', 'u', '\x7b'] ++ hexadecimal c.toNat ++ ['\x7d']
    else [c]

/-- The text between double quotes, each character spelled by `escape`. -/
def encode (s : String) : String :=
  String.ofList ('"' :: s.toList.flatMap escape ++ ['"'])

end Casewise.Quoted
