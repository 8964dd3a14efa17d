/-!
# Blanks

* `Char.isBlank` — the characters with the property White_Space of Unicode.
-/

namespace Casewise

/-- Whether a character is a blank in the sense of Unicode. -/
def Char.isBlank (c : Char) : Bool :=
  ('\t' ≤ c && c ≤ '\r') || c = ' ' || c = '\u0085' || c = '\u00a0' || c = '\u1680' ||
    ('\u2000' ≤ c && c ≤ '\u200a') || c = '\u2028' || c = '\u2029' || c = '\u202f' ||
    c = '\u205f' || c = '\u3000'

end Casewise
