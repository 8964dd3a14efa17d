import Casewise.Pattern.Occurrence
import Casewise.Proofs.Answers

/-!
# Polarity of templates over properties

Testing a missing property as `undefined` is more liberal than rejecting it, and negation turns
liberal into strict. Which of the two treatments accepts more of a pattern therefore depends on the
negations above its templates over properties, and on nothing else: no other part of a pattern looks
at the treatment.

* `MissingFields.stricter` — the treatment under which a template accepts less, below an even or an
  odd number of negations; the other treatment is the more liberal one there;
* `Pattern.admits_of_templatesAt` — what a pattern admits under the stricter treatment it admits
  under the other, by induction over the pattern for both parities at once, since a negation
  exchanges them;
* `Pattern.accepts_mono_of_polarity` — the same for compiled patterns.

Where the parities are mixed there is no such law, as the example at the end shows.
-/

namespace Casewise

variable {ε : Type}

namespace MissingFields

/-- The treatment under which a template over properties accepts less, below an odd number of
negations or below an even one. -/
def stricter (odd : Bool) : MissingFields := if odd then .undefined else .reject

/-- What passes where missing properties are rejected passes where they are tested as `undefined`,
if that is so of the test of the property itself. -/
theorem holdsAt_undefined_of_reject {v : Value} {key : PropertyKey} {strict liberal : Value → Bool}
    (h : ∀ w, strict w = true → liberal w = true)
    (hholds : reject.holdsAt v key strict = true) : undefined.holdsAt v key liberal = true := by
  unfold holdsAt at hholds ⊢
  cases hprop : v.property? key with
  | some w =>
    rw [hprop] at hholds
    exact h w hholds
  | none =>
    -- a property that is missing does not pass under rejection
    rw [hprop] at hholds
    cases hholds

end MissingFields

namespace Pattern

/-- Every template over properties stands below an odd number of negations, or every one below an
even number. -/
def TemplatesAt (odd : Bool) (p : Pattern ε) : Prop :=
  ∀ n fs, (fields fs).OccursAt n p → (n % 2 == 1) = odd

/-- Below a negation the parity is the other one. -/
theorem TemplatesAt.of_not {odd : Bool} {p : Pattern ε} (h : p.not.TemplatesAt odd) :
    p.TemplatesAt !odd := by
  intro n fs hfs
  have hnot := h (n + 1) fs (.not hfs)
  cases odd <;> simp only [beq_eq_false_iff_ne, beq_iff_eq, Bool.not_false, Bool.not_true] at hnot ⊢
    <;> omega

/-- A template over properties stands below no negation of its own. -/
theorem TemplatesAt.eq_false_of_fields {odd : Bool} {fs : List (PropertyKey × Pattern ε)}
    (h : (fields fs).TemplatesAt odd) : odd = false :=
  (h 0 fs .self).symm

/-- **Polarity decides.** If all templates of a pattern stand below a number of negations of one
parity, the pattern admits under the more liberal treatment for that parity whatever it admits under
the stricter one. -/
theorem admits_of_templatesAt {odd : Bool} {p : Pattern ε} (h : p.TemplatesAt odd) {v : Value}
    (hv : p.admits (.stricter odd) v = true) : p.admits (.stricter !odd) v = true := by
  induction p generalizing odd v with
  | any => exact hv
  | defined => exact hv
  | literal l => exact hv
  | oneOf ls => exact hv
  | guard g => exact hv
  | not p ih =>
    -- the implication turns around below the negation, and so does the parity
    simp only [admits_not, Bool.not_eq_true', Bool.eq_false_iff, ne_eq] at hv ⊢
    intro hadmits
    have hback := ih h.of_not hadmits
    rw [Bool.not_not] at hback
    exact hv hback
  | allOf ps ih =>
    rw [admits_allOf_iff] at hv ⊢
    exact fun p hp => ih p hp (fun n fs hfs => h n fs (.allOf hp hfs)) (hv p hp)
  | anyOf ps ih =>
    rw [admits_anyOf_iff] at hv ⊢
    obtain ⟨p, hp, hadmits⟩ := hv
    exact ⟨p, hp, ih p hp (fun n fs hfs => h n fs (.anyOf hp hfs)) hadmits⟩
  | fields fs ih =>
    -- a template is itself a part, below no negation, so here the parity is known
    cases h.eq_false_of_fields
    rw [admits_fields_iff] at hv ⊢
    refine ⟨hv.1, fun f hf => ?_⟩
    have hf' : f.2.TemplatesAt false := fun n fs' hfs' => h n fs' (.fields hf hfs')
    exact MissingFields.holdsAt_undefined_of_reject (fun w => ih f hf hf') (hv.2 f hf)
  | elements ps ih =>
    -- positions are not treated in different ways; only what stands there is
    rw [admits_elements_iff] at hv ⊢
    obtain ⟨vs, hvs, hall⟩ := hv
    refine ⟨vs, hvs, fun i p hi => ?_⟩
    obtain ⟨w, hw, hadmits⟩ := hall i p hi
    have hp : p ∈ ps := List.mem_of_getElem? hi
    exact ⟨w, hw, ih p hp (fun n fs hfs => h n fs (.elements hp hfs)) hadmits⟩

/-- **The treatment of missing properties is monotone by polarity.** If every template over
properties stands below an even number of negations, a value that is accepted where missing
properties are rejected is accepted where they are tested as `undefined`. If every one stands below
an odd number, it is the other way around. -/
theorem accepts_mono_of_polarity (o : MatchOptions) (p : Pattern ε) (v : Value) :
    ((∀ n fs, (fields fs).OccursAt n p → n % 2 = 0) →
      ((p.compile { o with missingFields := .reject }).accepts v).value = true →
        ((p.compile { o with missingFields := .undefined }).accepts v).value = true) ∧
      ((∀ n fs, (fields fs).OccursAt n p → n % 2 = 1) →
        ((p.compile { o with missingFields := .undefined }).accepts v).value = true →
          ((p.compile { o with missingFields := .reject }).accepts v).value = true) := by
  simp only [value_accepts_compile]
  constructor
  · intro heven hv
    have h : p.TemplatesAt false := fun n fs hfs => by simp [heven n fs hfs]
    exact admits_of_templatesAt h hv
  · intro hodd hv
    have h : p.TemplatesAt true := fun n fs hfs => by simp [hodd n fs hfs]
    exact admits_of_templatesAt h hv

/-- Templates below two negations, accepted as they stand, and one below a single negation that
rejects a missing property as not being `null`. -/
theorem accepts_mono_below_two_negations_and_one :
    ((compile { missingFields := .undefined } (.not (.not (.fields
        [(.string "user", .fields [(.string "age", .undefined)])])) : Pattern Unit)).accepts
      (.object ⟨none, [(.string "user", .object ⟨none, [(.string "age", .undefined)]⟩)]⟩)).value
        = true ∧
    ((compile { missingFields := .reject } (.not (.fields [(.string "user", .null)]) :
      Pattern Unit)).accepts (.object {})).value = true := by
  refine ⟨(accepts_mono_of_polarity {} _ _).1 ?_ rfl, (accepts_mono_of_polarity {} _ _).2 ?_ rfl⟩
  -- both templates stand below two negations, the inner one inside the outer one
  · intro n fs h
    cases h with
    | not h =>
      cases h with
      | not h =>
        cases h with
        | self => rfl
        | fields hf h =>
          cases List.mem_singleton.1 hf
          cases h with
          | self => rfl
          | fields hf h =>
            cases List.mem_singleton.1 hf
            cases h
  · intro n fs h
    cases h with
    | not h =>
      cases h with
      | self => rfl
      | fields hf h =>
        cases List.mem_singleton.1 hf
        cases h

/-- With templates of both parities there is no such law: either treatment accepts a record that the
other one rejects. -/
example :
    let p : Pattern Unit := .allOf
      [.fields [(.string "a", .any)], .not (.fields [(.string "b", .undefined)])]
    let v : Value := .object ⟨none, [(.string "a", .null)]⟩
    let w : Value := .object ⟨none, [(.string "b", .null)]⟩
    p.admits .reject v = true ∧ p.admits .undefined v = false ∧
      p.admits .reject w = false ∧ p.admits .undefined w = true := by decide

end Pattern

end Casewise
