import Casewise.Proofs.Compilation
import Casewise.Rules.Meaning

/-!
# The answer of a pattern

Where it does not matter what a test emits, a pattern is a Boolean function of values.
`Pattern.admits` is that function, and the compiled pattern answers as it does
(`Pattern.value_accepts_compile`). It obeys the equations that one expects, one for each connective
and each template, and for some leaves:

* `admits_literal`, `admits_oneOf_iff`, `admits_startsWith_iff` — literals, sets of them, and
  beginnings of strings;
* `admits_not`, `admits_allOf_iff`, `admits_anyOf_iff` — the connectives;
* `admits_fields_iff` — a template over properties;
* `admits_elements_iff` — a template over positions, which asks each position for an item. That an
  array must not be too short is part of this: a position without an item fails.

Laws about answers are proved from these equations, by induction over patterns.
-/

namespace Casewise

variable {ε : Type}

/-- The answer to a question about a property is that of the test it is handed to. -/
theorem MissingFields.value_ask (missing : MissingFields) (v : Value) (key : PropertyKey)
    (test : Value → Traced ε Bool) :
    (missing.ask v key test).value = missing.holdsAt v key fun w => (test w).value := by
  unfold ask holdsAt
  -- either the property is there and is tested, or the treatment of missing ones decides
  cases v.property? key <;> cases missing <;> rfl

namespace Pattern

/-- The answer of a pattern for a value, whatever is emitted on the way to it. -/
def admits (missing : MissingFields) (p : Pattern ε) (v : Value) : Bool :=
  (p.meaning missing v).value

/-- The compiled pattern gives the answer of the pattern. -/
theorem value_accepts_compile (o : MatchOptions) (p : Pattern ε) (v : Value) :
    ((p.compile o).accepts v).value = p.admits o.missingFields v := by
  rw [accepts_compile, admits]

variable (missing : MissingFields) (v : Value)

/-- A literal answers by strict equality. -/
theorem admits_literal (l : Literal) :
    (literal l : Pattern ε).admits missing v = l.strictEquals v := rfl

/-- A set of literals admits what one of them is strictly equal to. -/
theorem admits_oneOf_iff (ls : List Literal) :
    (oneOf ls : Pattern ε).admits missing v = true ↔ ∃ l ∈ ls, l.strictEquals v = true := by
  rw [admits, meaning, Traced.value_pure, List.any_eq_true]

/-- Only strings open with anything, and the empty text opens all of them. -/
theorem admits_startsWith_iff (start : String) :
    (startsWith start : Pattern ε).admits missing v = true ↔
      ∃ s, v.text? = some s ∧ opens start s = true := by
  rw [admits, startsWith, meaning]
  exact Option.any_eq_true _ _

/-- A negation answers the opposite, also where the pattern below it fails for want of a
property. -/
theorem admits_not (p : Pattern ε) : p.not.admits missing v = !p.admits missing v := rfl

/-- A conjunction admits what all of its operands admit. That it stops early does not show in the
answer. -/
theorem admits_allOf_iff (ps : List (Pattern ε)) :
    (allOf ps).admits missing v = true ↔ ∀ p ∈ ps, p.admits missing v = true := by
  rw [admits, meaning, meaningAll_eq_all, Traced.value_all, List.all_eq_true]
  rfl

/-- A disjunction admits what one of its operands admits. -/
theorem admits_anyOf_iff (ps : List (Pattern ε)) :
    (anyOf ps).admits missing v = true ↔ ∃ p ∈ ps, p.admits missing v = true := by
  rw [admits, meaning, meaningAny_eq_any, Traced.value_any, List.any_eq_true]
  rfl

/-- A template over properties admits object-like values only, and asks one question for each of its
keys. -/
theorem admits_fields_iff (fs : List (PropertyKey × Pattern ε)) :
    (fields fs).admits missing v = true ↔
      v.isObjectLike = true ∧ ∀ f ∈ fs, missing.holdsAt v f.1 (f.2.admits missing) = true := by
  rw [admits, meaning, meaningFields_eq_all]
  cases v.isObjectLike with
  -- nothing is asked of a value that is not object-like
  | false => simp
  | true =>
    have hask : ∀ f : PropertyKey × Pattern ε, (missing.ask v f.1 (f.2.meaning missing)).value
        = missing.holdsAt v f.1 (f.2.admits missing) := fun f =>
      missing.value_ask v f.1 (f.2.meaning missing)
    simp [Traced.value_all, hask]

/-- Position by position, there is an item and it passes. -/
theorem value_meaningEach_iff (ps : List (Pattern ε)) (vs : List Value) :
    (ps.length ≤ vs.length ∧ (meaningEach missing ps vs).value = true) ↔
      ∀ (i : Nat) p, ps[i]? = some p → ∃ w, vs[i]? = some w ∧ p.admits missing w = true := by
  rw [meaningEach_eq_all, Traced.value_all, List.all_eq_true]
  constructor
  -- the listed patterns are zipped with the items; there are enough for each to have a partner
  · rintro ⟨hlen, hall⟩ i p hp
    have hi : i < ps.length := (List.getElem?_eq_some_iff.1 hp).1
    have hw : vs[i]? = some vs[i] := List.getElem?_eq_getElem (by omega)
    have he : (p, vs[i]) ∈ ps.zip vs := List.mem_of_getElem? (List.getElem?_zip_eq_some.2 ⟨hp, hw⟩)
    exact ⟨vs[i], hw, hall _ he⟩
  · intro h
    refine ⟨Nat.not_lt.1 fun hlen => ?_, ?_⟩
    · -- a list that is too short has no item at the first position behind its end
      have hp : ps[vs.length]? = some ps[vs.length] := List.getElem?_eq_getElem (by omega)
      obtain ⟨w, hw, -⟩ := h vs.length _ hp
      simp at hw
    -- a pair of the zipped lists comes from one position of both
    · rintro ⟨p, w⟩ he
      obtain ⟨i, hi⟩ := List.mem_iff_getElem?.1 he
      obtain ⟨hp, hw⟩ := List.getElem?_zip_eq_some.1 hi
      obtain ⟨w', hw', hadmits⟩ := h i p hp
      cases hw.symm.trans hw'
      exact hadmits

/-- A template over positions admits arrays only, and has an item for each of its positions. -/
theorem admits_elements_iff (ps : List (Pattern ε)) :
    (elements ps).admits missing v = true ↔
      ∃ vs, v.items? = some vs ∧
        ∀ (i : Nat) p, ps[i]? = some p → ∃ w, vs[i]? = some w ∧ p.admits missing w = true := by
  rw [admits, meaning]
  cases v.items? with
  -- neither side holds of a value that is not an array
  | none => simp
  | some vs =>
    simp only [Option.some.injEq, exists_eq_left', ← value_meaningEach_iff]
    by_cases hlen : ps.length ≤ vs.length <;> simp [hlen]

end Pattern

end Casewise
