import Casewise.Number.Binary64

/-!
# The fewest digits that read back

A finite number stands for every real that rounds to it. `Binary64.shortest` is the decimal with
the fewest digits among those, and of several with that many digits the nearest to the number. It
looks at decimal grids from coarse to fine: on each, only the two neighbours of the number can be
nearest, and the first grid with a neighbour inside the rounding interval wins.

* `Decimal` — `digits · 10 ^ scale`.
* `RoundingInterval` — the reals that round to a number, over a common denominator.
* `Binary64.shortest` — the decimal of a finite number that is not zero.
-/

namespace Casewise

/-- The decimal `digits · 10 ^ scale`. -/
structure Decimal where
  digits : Nat
  scale : Int
deriving DecidableEq

/-- The reals between `low / den` and `high / den`, around the number `value / den`; the ends
belong to it if `closed` is set. -/
structure RoundingInterval where
  low : Nat
  value : Nat
  high : Nat
  den : Nat
  closed : Bool

namespace RoundingInterval

/-- The reals that round to the magnitude of `x`: half the way to each neighbour. Below a power of
two the neighbour is only half as far away; ends round to the even significand. -/
def of (x : Binary64) : RoundingInterval :=
  let m := x.significand
  let below := if m = 1 <<< 52 ∧ 1 < x.exponentField then 4 * m - 1 else 4 * m - 2
  let e := x.exponent - 2
  let unit := 1 <<< e.toNat
  { low := below * unit, value := 4 * m * unit, high := (4 * m + 2) * unit
    den := 1 <<< (-e).toNat, closed := m % 2 = 0 }

/-- Whether `num / den'` lies in the interval. -/
def contains (i : RoundingInterval) (num den' : Nat) : Bool :=
  if i.closed then i.low * den' ≤ num * i.den && num * i.den ≤ i.high * den'
  else i.low * den' < num * i.den && num * i.den < i.high * den'

/-- The two neighbours of the number on the grid of the multiples of `10 ^ scale`, the nearer
first. -/
def neighbours (i : RoundingInterval) (scale : Int) : List Nat :=
  let num := i.value * Nat.pow 10 (-scale).toNat
  let den := i.den * Nat.pow 10 scale.toNat
  let below := num / den
  if 2 * (num % den) < den then [below, below + 1] else [below + 1, below]

/-- A decimal of the grid inside the interval, the nearer neighbour if both are. -/
def onGrid? (i : RoundingInterval) (scale : Int) : Option Decimal :=
  ((i.neighbours scale).find? fun d =>
    i.contains (d * Nat.pow 10 scale.toNat) (Nat.pow 10 (-scale).toNat)).map (⟨·, scale⟩)

/-- The exponent of the leading decimal digit of the number. -/
def leadingExponent (i : RoundingInterval) : Int :=
  let estimate : Int := ((i.value.log2 : Int) - i.den.log2 - 1) * 30103 / 100000 - 1
  let reached (e : Int) : Bool := i.den * Nat.pow 10 e.toNat ≤ i.value * Nat.pow 10 (-e).toNat
  if reached (estimate + 2) then estimate + 2
  else if reached (estimate + 1) then estimate + 1
  else estimate

/-- The first decimal of the interval on the grids `scale, scale - 1, …`. -/
def search (i : RoundingInterval) (scale : Int) : Nat → Option Decimal
  | 0 => none
  | fuel + 1 => (i.onGrid? scale).orElse fun _ => search i (scale - 1) fuel

end RoundingInterval

/-- Takes the trailing zeros off the digits of `d`. -/
def Decimal.normalize (d : Decimal) : Nat → Decimal
  | 0 => d
  | fuel + 1 =>
    if d.digits ≠ 0 ∧ d.digits % 10 = 0 then normalize ⟨d.digits / 10, d.scale + 1⟩ fuel else d

/-- The decimal with the fewest digits that reads back as the magnitude of `x`, the nearest of
those. Seventeen digits always suffice. -/
def Binary64.shortest (x : Binary64) : Decimal :=
  let i := RoundingInterval.of x
  (((i.search i.leadingExponent 17).getD ⟨0, 0⟩).normalize 17)

end Casewise
