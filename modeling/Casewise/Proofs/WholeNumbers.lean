import Casewise.Value.Data

/-!
# Whole numbers have one word each

A double that is an integer is determined by that integer, up to the sign of a zero. The magnitude
of a word is its significand behind the number of its binade, so a number is determined by its sign,
binade and significand; and since every significand of a binade other than the lowest has its top
bit set, no integer can be written with two of them.

* `Binary64.eq_of_magnitude` — sign and magnitude determine the word;
* `Binary64.toInt?_eq_some` — what the integer says about binade and significand;
* `Binary64.unsignZero_eq_of_toInt?` — two words of one integer are the same word, or both zeros.
-/

namespace Casewise.Binary64

/-! ### Words -/

/-- Sign and magnitude are all there is in a word. -/
theorem eq_of_magnitude {x y : Binary64} (hsign : x.negative = y.negative)
    (hmagnitude : x.magnitude = y.magnitude) : x = y := by
  have hx : x.bits.toNat < 18446744073709551616 := x.bits.toNat_lt
  have hy : y.bits.toNat < 18446744073709551616 := y.bits.toNat_lt
  have hbits : x.bits.toNat = y.bits.toNat := by
    unfold negative at hsign
    unfold magnitude at hmagnitude
    rw [decide_eq_decide] at hsign
    simp only [Nat.shiftLeft_eq, Nat.one_mul, Nat.reducePow] at hsign hmagnitude
    omega
  have hword : x.bits = y.bits := UInt64.toNat_inj.1 hbits
  cases x
  cases y
  exact congrArg mk hword

/-- The binade of a finite number, counted from the lowest one, which has the numbers without a top
bit as well. -/
def binade (x : Binary64) : Nat := max x.exponentField 1 - 1

/-- A significand has 53 bits. -/
theorem significand_lt (x : Binary64) : x.significand < 1 <<< 53 := by
  have hfraction : x.fraction < 1 <<< 52 := Nat.mod_lt _ (by decide)
  unfold significand
  simp only [Nat.shiftLeft_eq, Nat.one_mul, Nat.reducePow] at hfraction ⊢
  split <;> omega

/-- Above the lowest binade the top bit of a significand is set. -/
theorem le_significand {x : Binary64} (h : x.binade ≠ 0) : 1 <<< 52 ≤ x.significand := by
  have hfield : x.exponentField ≠ 0 := by
    unfold binade at h
    omega
  -- above the lowest binade the exponent field is not zero, and the top bit is implied
  unfold significand
  rw [if_neg hfield]
  exact Nat.le_add_left _ _

/-- The magnitude is read off binade and significand. -/
theorem magnitude_eq (x : Binary64) : x.magnitude = x.binade <<< 52 + x.significand := by
  have hsplit : x.magnitude = x.exponentField * 4503599627370496 + x.fraction := by
    have hdiv := Nat.div_add_mod x.magnitude 4503599627370496
    rw [Nat.mul_comm] at hdiv
    exact hdiv.symm
  unfold binade significand
  generalize x.magnitude = magnitude, x.exponentField = field, x.fraction = fraction at hsplit ⊢
  simp only [Nat.shiftLeft_eq, Nat.one_mul, Nat.reducePow]
  cases field with
  | zero =>
    -- the numbers without a top bit share the lowest binade
    rw [if_pos rfl, hsplit]
    rfl
  | succ field =>
    have hbinade : max (field + 1) 1 - 1 = field := by omega
    rw [if_neg (Nat.succ_ne_zero field), hbinade, hsplit, Nat.succ_mul]
    omega

/-! ### Integers -/

/-- An integer that a number denotes has the sign of the number, and scaled to the unit of the
lowest binade it is the significand in its place. -/
theorem toInt?_eq_some {x : Binary64} {n : Int} (h : x.toInt? = some n) :
    n = (if x.negative then -(n.natAbs : Int) else n.natAbs) ∧
      n.natAbs <<< 1074 = x.significand <<< x.binade := by
  have hexponent : x.exponent + 1074 = x.binade := by
    unfold exponent binade
    omega
  have hsigned : ∀ m : Nat, (if x.negative then -(m : Int) else m).natAbs = m := by
    intro m
    cases x.negative <;> simp
  unfold toInt? at h
  cases hfinite : x.isFinite with
  | false => simp [hfinite] at h
  | true =>
    by_cases hpositive : 0 ≤ x.exponent
    · -- the significand is shifted up
      have hn : n = if x.negative then -((x.significand <<< x.exponent.toNat : Nat) : Int)
          else (x.significand <<< x.exponent.toNat : Nat) := by
        simpa [hfinite, hpositive] using h.symm
      have habs : n.natAbs = x.significand <<< x.exponent.toNat := by rw [hn, hsigned]
      refine ⟨by rw [habs]; exact hn, ?_⟩
      have hplace : x.exponent.toNat + 1074 = x.binade := by omega
      rw [habs, ← Nat.shiftLeft_add, hplace]
    · -- the significand is shifted down, and nothing is lost
      have hplace : (-x.exponent).toNat + x.binade = 1074 := by omega
      by_cases hdivides : x.significand % 1 <<< (-x.exponent).toNat = 0
      · have hn : n = if x.negative then -((x.significand / 1 <<< (-x.exponent).toNat : Nat) : Int)
            else (x.significand / 1 <<< (-x.exponent).toNat : Nat) := by
          simpa [hfinite, hpositive, hdivides] using h.symm
        have habs : n.natAbs = x.significand / 1 <<< (-x.exponent).toNat := by rw [hn, hsigned]
        refine ⟨by rw [habs]; exact hn, ?_⟩
        have hscale : ∀ m k : Nat, m <<< k = m * 1 <<< k := by
          intro m k
          rw [Nat.shiftLeft_eq, Nat.shiftLeft_eq 1, Nat.one_mul]
        have hback : n.natAbs <<< (-x.exponent).toNat = x.significand := by
          rw [habs, hscale, Nat.div_mul_cancel (Nat.dvd_of_mod_eq_zero hdivides)]
        rw [← hplace, Nat.shiftLeft_add, hback]
      · simp [hfinite, hpositive, hdivides] at h

/-- A significand in its place can be taken apart again: it has its top bit set unless it is in the
lowest place. -/
theorem shiftLeft_inj {m m' i j : Nat} (hm : m < 1 <<< 53) (hm' : m' < 1 <<< 53)
    (hi : i ≠ 0 → 1 <<< 52 ≤ m) (hj : j ≠ 0 → 1 <<< 52 ≤ m') (h : m <<< i = m' <<< j) :
    i = j ∧ m = m' := by
  -- a significand in a higher place would have to be too large in the lower one
  have hhigher : ∀ {m m' i d : Nat}, m < 1 <<< 53 → 1 <<< 52 ≤ m' →
      m <<< i ≠ m' <<< (i + (d + 1)) := by
    intro m m' i d hm hm' h
    rw [Nat.add_comm i, Nat.shiftLeft_add, Nat.shiftLeft_eq, Nat.shiftLeft_eq _ i] at h
    have hsame : m = m' <<< (d + 1) := Nat.eq_of_mul_eq_mul_right (Nat.two_pow_pos i) h
    have hlarge : m' ≤ m' <<< d := by
      rw [Nat.shiftLeft_eq]
      exact Nat.le_mul_of_pos_right m' (Nat.two_pow_pos d)
    rw [Nat.shiftLeft_succ] at hsame
    simp only [Nat.shiftLeft_eq 1, Nat.one_mul, Nat.reducePow] at hm hm'
    omega
  rcases Nat.lt_trichotomy i j with hlt | rfl | hlt
  · obtain ⟨d, rfl⟩ := Nat.exists_eq_add_of_lt hlt
    exact absurd h (hhigher hm (hj (Nat.succ_ne_zero _)))
  · rw [Nat.shiftLeft_eq, Nat.shiftLeft_eq] at h
    exact ⟨rfl, Nat.eq_of_mul_eq_mul_right (Nat.two_pow_pos i) h⟩
  · obtain ⟨d, rfl⟩ := Nat.exists_eq_add_of_lt hlt
    exact absurd h.symm (hhigher hm' (hi (Nat.succ_ne_zero _)))

/-- **A whole number has one word**, up to the sign of a zero. -/
theorem unsignZero_eq_of_toInt? {x y : Binary64} {n : Int} (hx : x.toInt? = some n)
    (hy : y.toInt? = some n) : x.unsignZero = y.unsignZero := by
  obtain ⟨hnx, hplacex⟩ := toInt?_eq_some hx
  obtain ⟨hny, hplacey⟩ := toInt?_eq_some hy
  -- both significands stand in the place that the integer has
  obtain ⟨hbinade, hsignificand⟩ := shiftLeft_inj x.significand_lt y.significand_lt
    (fun h => le_significand h) (fun h => le_significand h) (hplacex.symm.trans hplacey)
  have hmagnitude : x.magnitude = y.magnitude := by
    rw [magnitude_eq, magnitude_eq, hbinade, hsignificand]
  have hzero : x.isZero = y.isZero := by rw [isZero, isZero, hmagnitude]
  unfold unsignZero
  rw [hzero]
  cases hyzero : y.isZero with
  | true => rfl
  | false =>
    -- a number that is not zero denotes an integer that is not zero
    have hn : n.natAbs ≠ 0 := by
      intro hn
      rw [hn, Nat.zero_shiftLeft, Nat.shiftLeft_eq] at hplacey
      have hsig : y.significand = 0 :=
        (Nat.mul_eq_zero.1 hplacey.symm).resolve_right (Nat.ne_of_gt (Nat.two_pow_pos _))
      have hlowest : y.binade = 0 := by
        refine Decidable.byContradiction fun h => ?_
        have htop := le_significand h
        rw [hsig] at htop
        exact absurd htop (by decide)
      have hmag : y.magnitude = 0 := by rw [magnitude_eq, hsig, hlowest, Nat.zero_shiftLeft]
      rw [isZero, hmag] at hyzero
      cases hyzero
    have hsignOf : ∀ z : Binary64, n = (if z.negative then -(n.natAbs : Int) else n.natAbs) →
        z.negative = decide (n < 0) := by
      intro z hz
      cases hneg : z.negative with
      | true =>
        rw [hneg, if_pos rfl] at hz
        exact (decide_eq_true (by omega)).symm
      | false =>
        rw [hneg, if_neg Bool.false_ne_true] at hz
        exact (decide_eq_false (by omega)).symm
    have hsign : x.negative = y.negative := (hsignOf x hnx).trans (hsignOf y hny).symm
    rw [eq_of_magnitude hsign hmagnitude]

end Casewise.Binary64
