/-!
# Double-precision numbers

`Binary64` is an IEEE-754 binary64 word. Everything about it is natural-number arithmetic on the
word, so equality, order and printing can be reasoned about.

* `Binary64.order` — the place of a number on the line; both zeros are at `0`.
* `Binary64.equals`, `Binary64.less` — numeric comparison; a NaN compares with nothing.
* `Binary64.significand`, `Binary64.exponent` — a finite number is `± significand · 2 ^ exponent`.
* `Binary64.ofRatio` — the number nearest to a quotient, ties to the even significand.
-/

namespace Casewise

/-- A binary64 word: sign bit, eleven exponent bits, fifty-two fraction bits. -/
structure Binary64 where
  bits : UInt64
deriving DecidableEq

namespace Binary64

/-- The word without its sign bit. -/
def magnitude (x : Binary64) : Nat := x.bits.toNat % 1 <<< 63

/-- Whether the sign bit is set. -/
def negative (x : Binary64) : Bool := 1 <<< 63 ≤ x.bits.toNat

/-- The bits of the exponent, as they stand in the word. -/
def exponentField (x : Binary64) : Nat := x.magnitude / 1 <<< 52

/-- The bits of the significand, as they stand in the word. -/
def fraction (x : Binary64) : Nat := x.magnitude % 1 <<< 52

/-- The exponent is the greatest one, and the fraction is not empty. -/
def isNaN (x : Binary64) : Bool := 2047 <<< 52 < x.magnitude

/-- The exponent is the greatest one, and the fraction is empty. -/
def isInfinite (x : Binary64) : Bool := x.magnitude == 2047 <<< 52

/-- The exponent is not the greatest one. -/
def isFinite (x : Binary64) : Bool := x.magnitude < 2047 <<< 52

/-- Either zero. -/
def isZero (x : Binary64) : Bool := x.magnitude == 0

/-- The word with this sign and magnitude. -/
def ofMagnitude (negative : Bool) (magnitude : Nat) : Binary64 :=
  ⟨UInt64.ofNat ((if negative then 1 <<< 63 else 0) + magnitude)⟩

/-- The zero without sign. -/
def zero : Binary64 := ⟨0⟩

/-- The zero with a sign. -/
def negativeZero : Binary64 := ofMagnitude true 0

/-- Positive infinity. -/
def infinity : Binary64 := ofMagnitude false (2047 <<< 52)

/-- Negative infinity. -/
def negativeInfinity : Binary64 := ofMagnitude true (2047 <<< 52)

/-- The quiet NaN with a clear sign bit. -/
def nan : Binary64 := ofMagnitude false (2047 <<< 52 + 1 <<< 51)

/-- The place of a number on the line: words of one sign are ordered by magnitude, and the two
zeros coincide. -/
def order (x : Binary64) : Int := if x.negative then -x.magnitude else x.magnitude

/-- Numeric equality: `0` equals `-0`, and a NaN equals nothing. -/
def equals (x y : Binary64) : Bool := !x.isNaN && !y.isNaN && x.order == y.order

/-- Numeric order: false as soon as a NaN is involved. -/
def less (x y : Binary64) : Bool := !x.isNaN && !y.isNaN && x.order < y.order

/-- Equality of numbers is symmetric. -/
theorem equals_comm (x y : Binary64) : x.equals y = y.equals x := by
  grind [equals]

/-- Equality of numbers is transitive: all three stand at one place of the line, and none is a
NaN. -/
theorem equals_trans {x y z : Binary64} (h : x.equals y = true) (h' : y.equals z = true) :
    x.equals z = true := by
  simp_all [equals]

/-- Only NaN differs from itself. -/
theorem equals_self (x : Binary64) : x.equals x = !x.isNaN := by
  simp [equals]

/-- The integer `m` of the presentation `m · 2 ^ exponent` of a finite magnitude. -/
def significand (x : Binary64) : Nat :=
  if x.exponentField = 0 then x.fraction else x.fraction + 1 <<< 52

/-- The power of two that the significand is multiplied by; the least exponent is shared by the
numbers without a leading bit. -/
def exponent (x : Binary64) : Int := (max x.exponentField 1 : Nat) - 1075

/-- The integer that a finite number denotes, if it denotes one; `0` for both zeros. -/
def toInt? (x : Binary64) : Option Int :=
  let signed (m : Nat) : Int := if x.negative then -m else m
  if !x.isFinite then none
  else if 0 ≤ x.exponent then some (signed (x.significand <<< x.exponent.toNat))
  else
    let unit := 1 <<< (-x.exponent).toNat
    if x.significand % unit = 0 then some (signed (x.significand / unit)) else none

/-- The quotient `num / den` as an integer, a half going to the even neighbour. -/
def divToEven (num den : Nat) : Nat :=
  let q := num / den
  let r := num % den
  if den < 2 * r ∨ den = 2 * r ∧ q % 2 = 1 then q + 1 else q

/-- The number nearest to `num / den`, ties to the even significand, beyond the largest finite
number infinity. The rounded significand is added to the exponent field, so that one which reaches
`2 ^ 53` carries into the next binade. -/
def ofRatio (negative : Bool) (num den : Nat) : Binary64 :=
  if num = 0 ∨ den = 0 then ofMagnitude negative 0
  else
    let scaled (q : Int) : Nat × Nat :=
      if 0 ≤ q then (num, den <<< q.toNat) else (num <<< (-q).toNat, den)
    let estimate : Int := max ((num.log2 : Int) - den.log2 - 53) (-1074)
    let q := if 1 <<< 53 ≤ (scaled estimate).1 / (scaled estimate).2 then estimate + 1 else estimate
    let m := divToEven (scaled q).1 (scaled q).2
    ofMagnitude negative (min ((q + 1074).toNat <<< 52 + m) (2047 <<< 52))

/-- The number nearest to an integer. -/
def ofInt (n : Int) : Binary64 := ofRatio (n < 0) n.natAbs 1

/-- The number nearest to `digits · 10 ^ scale`. Numbers with a decimal exponent far outside the
range need no arithmetic. -/
def ofDecimal (negative : Bool) (digits : Nat) (scale : Int) : Binary64 :=
  let top : Int := digits.log2 / 3 + 1 + scale
  if digits = 0 ∨ top < -400 then ofMagnitude negative 0
  else if 800 < scale + digits.log2 / 4 then ofMagnitude negative (2047 <<< 52)
  else if 0 ≤ scale then ofRatio negative (digits * Nat.pow 10 scale.toNat) 1
  else ofRatio negative digits (Nat.pow 10 (-scale).toNat)

/-! ### Numbers that are no NaN -/

/-- A magnitude up to that of infinity is no NaN. -/
theorem isNaN_ofMagnitude {m : Nat} (h : m ≤ 2047 <<< 52) (negative : Bool) :
    (ofMagnitude negative m).isNaN = false := by
  have hword : (ofMagnitude negative m).bits.toNat = (if negative then 1 <<< 63 else 0) + m := by
    unfold ofMagnitude
    rw [UInt64.toNat_ofNat', Nat.mod_eq_of_lt]
    cases negative <;> simp at h ⊢ <;> omega
  unfold isNaN magnitude
  rw [hword]
  cases negative <;> simp at h ⊢ <;> omega

/-- No quotient is rounded to a NaN. -/
theorem isNaN_ofRatio (negative : Bool) (num den : Nat) :
    (ofRatio negative num den).isNaN = false := by
  unfold ofRatio
  split
  · exact isNaN_ofMagnitude (Nat.zero_le _) negative
  · exact isNaN_ofMagnitude (Nat.min_le_right _ _) negative

/-- The double nearest to an integer is a number, however large the integer is. -/
theorem isNaN_ofInt (n : Int) : (ofInt n).isNaN = false := isNaN_ofRatio _ _ _

/-- What is finite is a number. -/
theorem isNaN_of_isFinite {x : Binary64} (h : x.isFinite = true) : x.isNaN = false := by
  unfold isFinite at h
  unfold isNaN
  simp only [decide_eq_true_eq, decide_eq_false_iff_not] at h ⊢
  omega

end Binary64

end Casewise
