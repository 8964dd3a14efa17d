import Casewise.Number.Shortest

/-!
# Writing numbers

Two spellings of a number are in use. `Binary64.plain` is what a rendered value shows: positional
however large or small, no sign on zero, whole numbers below `10 ^ 21` digit for digit.
`Binary64.exact` is what the structure of a value shows: always a fraction or an exponent, so that
a number is told apart from an integer, and the sign of zero kept.
-/

namespace Casewise

namespace Decimal

/-- The digits with the point where it belongs, zeros filled in; `point` is written before an
empty fraction only if `fraction` asks for it. -/
def positional (d : Decimal) (fraction : Bool) : String :=
  let digits := toString d.digits
  if 0 ≤ d.scale then
    digits ++ String.ofList (List.replicate d.scale.toNat '0') ++ (if fraction then ".0" else "")
  else
    let places := (-d.scale).toNat
    let padded := List.replicate (places + 1 - digits.length) '0' ++ digits.toList
    let whole := padded.length - places
    String.ofList (padded.take whole) ++ "." ++ String.ofList (padded.drop whole)

/-- One digit before the point, the rest behind it, and the exponent after `e`. -/
def scientific (d : Decimal) : String :=
  let digits := (toString d.digits).toList
  let exponent : Int := d.scale + digits.length - 1
  let tail := digits.drop 1
  String.ofList (digits.take 1) ++ (if tail.isEmpty then "" else "." ++ String.ofList tail) ++
    "e" ++ toString exponent

end Decimal

namespace Binary64

/-- Positional at every size; `0` for both zeros; digit for digit when whole and below `10 ^ 21`,
the fewest digits that read back otherwise. -/
def plain (x : Binary64) : String :=
  if x.isNaN then "NaN"
  else if x.isInfinite then if x.negative then "-Infinity" else "Infinity"
  else
    let short := (if x.negative then "-" else "") ++ x.shortest.positional false
    match x.toInt? with
    | some n => if n.natAbs < 1000000000000000000000 then toString n else short
    | none => short

/-- The fewest digits that read back, with a fraction between `10 ^ -4` and `10 ^ 16` and with an
exponent outside. -/
def exact (x : Binary64) : String :=
  if x.isNaN then "NaN"
  else
    let sign := if x.negative then "-" else ""
    if x.isInfinite then sign ++ "inf"
    else if x.isZero then sign ++ "0.0"
    else
      let d := x.shortest
      let leading : Int := d.scale + (toString d.digits).length - 1
      sign ++ if -4 ≤ leading ∧ leading < 16 then d.positional true else d.scientific

end Binary64

end Casewise
