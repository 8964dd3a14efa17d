import Casewise.Pattern.Occurrence
import Casewise.Proofs.Answers
import Casewise.Proofs.RuleSets
import Casewise.Proofs.ValueEquality

/-!
# Equal values cannot be told apart

A pattern gives one answer for two equal values, provided that its guards do. The induction is on
the pattern; what it needs of the values is that equal values have equal properties under the same
keys and equal items at the same positions, a missing one included.

* `Pattern.admits_eq_of_alike` — the answer of a pattern;
* `Pattern.respectsEquality_plainWords`, `PatternSpec.respectsEquality_toPattern` — the guards of
  the vocabulary and of declared patterns give one answer for equal values;
* `Pattern.accepts_eq_of_equals` — compiled patterns and compiled rule sets.

The values are assumed to be well formed, as all values are that JSON data denote
(`Json.wellFormed_toValue`).
-/

namespace Casewise

variable {ε : Type}

/-! ### Answers -/

/-- The predicate gives one answer for two equal values. -/
def Predicate.RespectsEquality (p : Predicate ε Value) : Prop :=
  ∀ v w : Value, v.WellFormed → w.WellFormed → (v == w) = true →
    (p.test v).value = (p.test w).value

/-- A question about a property has one answer for alike values if the test of the property has. -/
theorem MissingFields.holdsAt_eq_of_alike (missing : MissingFields) {v w : Value}
    (h : v.Alike w) (key : PropertyKey) {test : Value → Bool}
    (htest : ∀ x y : Value, x.Alike y → test x = test y) :
    missing.holdsAt v key test = missing.holdsAt w key test := by
  have hrel := h.property?_rel key
  unfold holdsAt
  generalize v.property? key = a, w.property? key = b at hrel ⊢
  cases hrel with
  | some hxy => exact htest _ _ hxy
  | none => rfl

namespace Pattern

/-- **Equal values are admitted alike.** -/
theorem admits_eq_of_alike {p : Pattern ε} (hg : p.EveryGuard Predicate.RespectsEquality)
    (missing : MissingFields) {v w : Value} (h : v.Alike w) :
    p.admits missing v = p.admits missing w := by
  -- the induction is for all pairs of alike values, since templates go on to the parts of both
  induction p generalizing v w with
  | any => rfl
  | defined =>
    simp only [admits, meaning, Traced.value_pure, Value.isNullish, Value.kind_eq_of_equals h.equal]
  | literal l => exact l.strictEquals_eq_of_equals h.equal
  | oneOf ls =>
    simp only [admits, meaning, Traced.value_pure, Literal.strictEquals_eq_of_equals _ h.equal]
  | guard g => exact hg 0 g .self v w h.left h.right h.equal
  | not p ih => rw [admits_not, admits_not, ih ((everyPart_not_iff (by simp)).1 hg) h]
  | allOf ps ih =>
    have hg : ∀ p ∈ ps, p.EveryGuard Predicate.RespectsEquality :=
      (everyPart_allOf_iff (by simp)).1 hg
    rw [Bool.eq_iff_iff, admits_allOf_iff, admits_allOf_iff]
    exact forall₂_congr fun p hp => by rw [ih p hp (hg p hp) h]
  | anyOf ps ih =>
    have hg : ∀ p ∈ ps, p.EveryGuard Predicate.RespectsEquality :=
      (everyPart_anyOf_iff (by simp)).1 hg
    rw [Bool.eq_iff_iff, admits_anyOf_iff, admits_anyOf_iff]
    exact exists_congr fun p => and_congr_right fun hp => by rw [ih p hp (hg p hp) h]
  | fields fs ih =>
    have hg : ∀ f ∈ fs, f.2.EveryGuard Predicate.RespectsEquality :=
      (everyPart_fields_iff (by simp)).1 hg
    have hlike : v.isObjectLike = w.isObjectLike := by
      rw [Value.isObjectLike, Value.isObjectLike, Value.kind_eq_of_equals h.equal]
    have hfield : ∀ f ∈ fs, missing.holdsAt v f.1 (f.2.admits missing)
        = missing.holdsAt w f.1 (f.2.admits missing) := fun f hf =>
      missing.holdsAt_eq_of_alike h f.1 fun _ _ hxy => ih f hf (hg f hf) hxy
    rw [Bool.eq_iff_iff, admits_fields_iff, admits_fields_iff, hlike]
    exact and_congr_right fun _ => forall₂_congr fun f hf => by rw [hfield f hf]
  | elements ps ih =>
    have hg : ∀ p ∈ ps, p.EveryGuard Predicate.RespectsEquality :=
      (everyPart_elements_iff (by simp)).1 hg
    -- either both values are arrays, with equal items at every position, or neither is one
    have hrel := h.items_rel
    rw [Bool.eq_iff_iff, admits_elements_iff, admits_elements_iff]
    generalize v.items? = a, w.items? = b at hrel ⊢
    cases hrel with
    | none => exact Iff.rfl
    | @some vs ws hitems =>
      -- at each position both sides have items that are alike, or neither has one
      have hposition : ∀ (i : Nat) p, ps[i]? = some p →
          ((∃ x, vs[i]? = some x ∧ p.admits missing x = true) ↔
            ∃ y, ws[i]? = some y ∧ p.admits missing y = true) := by
        intro i p hp
        have hpos := hitems i
        generalize vs[i]? = a, ws[i]? = b at hpos ⊢
        cases hpos with
        | none => exact Iff.rfl
        | @some x y hxy =>
          have hp : p ∈ ps := List.mem_of_getElem? hp
          simp only [Option.some.injEq, exists_eq_left', ih p hp (hg p hp) hxy]
      simp only [Option.some.injEq, exists_eq_left']
      exact forall_congr' fun i => forall₂_congr fun p hp => hposition i p hp

end Pattern

/-! ### Guards that respect equality -/

/-- A test without events respects equality if it has one answer for equal values, well formed or
not. -/
theorem Predicate.respectsEquality_ofBool {f : Value → Bool}
    (h : ∀ v w : Value, v.equals w = true → f v = f w) :
    (ofBool f : Predicate ε Value).RespectsEquality :=
  fun v w _ _ heq => h v w heq

namespace Pattern

/-- The guards of the vocabulary respect equality. -/
theorem respectsEquality_ofGuard (g : Guard) :
    (ofGuard g : Pattern ε).EveryGuard Predicate.RespectsEquality :=
  everyGuard_guard_iff.2 (Predicate.respectsEquality_ofBool fun _ _ => g.holds_eq_of_equals)

/-- The test for arrays asks about the kind. -/
theorem respectsEquality_array : (array : Pattern ε).EveryGuard Predicate.RespectsEquality :=
  everyGuard_guard_iff.2 (Predicate.respectsEquality_ofBool fun v w h => by
    rw [Value.kind_eq_of_equals h])

/-- The test for a beginning asks about the text. -/
theorem respectsEquality_startsWith (start : String) :
    (startsWith start : Pattern ε).EveryGuard Predicate.RespectsEquality :=
  everyGuard_guard_iff.2 (Predicate.respectsEquality_ofBool fun v w h => by
    rw [Value.text?_eq_of_equals h])

/-- The test for a class asks about the class, and for the two general names about the kind. -/
theorem respectsEquality_instanceOf (name : String) :
    (instanceOf name : Pattern ε).EveryGuard Predicate.RespectsEquality :=
  everyGuard_guard_iff.2 (Predicate.respectsEquality_ofBool fun v w h => by
    rw [Value.className?_eq_of_equals h, Guard.holds_eq_of_equals .isError h,
      Guard.holds_eq_of_equals .isObject h])

/-- The words for patterns that have no parameter. -/
def plainWords : List (Pattern ε) :=
  [.any, .defined, .null, .undefined, .string, .number, .boolean, .bigint, .symbol, .date, .record,
    .array, .function, .nonEmptyString]

/-- The words without a parameter are leaves without a guard, or guards that respect equality. -/
theorem respectsEquality_plainWords :
    ∀ p ∈ (plainWords : List (Pattern ε)), p.EveryGuard Predicate.RespectsEquality := by
  simp only [plainWords, List.forall_mem_cons, List.not_mem_nil, false_implies, implies_true,
    and_true]
  have hleaf : ∀ p : Pattern ε, p.IsLeaf → (∀ g, p ≠ guard g) →
      p.EveryGuard Predicate.RespectsEquality := fun _ => everyGuard_of_isLeaf
  exact ⟨hleaf .any trivial (by simp), hleaf .defined trivial (by simp),
    hleaf (.literal _) trivial (by simp), hleaf (.literal _) trivial (by simp),
    respectsEquality_ofGuard _, respectsEquality_ofGuard _, respectsEquality_ofGuard _,
    respectsEquality_ofGuard _, respectsEquality_ofGuard _, respectsEquality_ofGuard _,
    respectsEquality_ofGuard _, respectsEquality_array, respectsEquality_ofGuard _,
    respectsEquality_ofGuard _⟩

/-- So are the type names of declarations. -/
theorem respectsEquality_typeName (t : TypeName) :
    (t.toPattern : Pattern ε).EveryGuard Predicate.RespectsEquality := by
  cases t with
  | null => exact everyGuard_of_isLeaf trivial (by rintro _ ⟨⟩)
  | undefined => exact everyGuard_of_isLeaf trivial (by rintro _ ⟨⟩)
  | defined => exact everyGuard_of_isLeaf trivial (by rintro _ ⟨⟩)
  | unknown => exact everyGuard_of_isLeaf trivial (by rintro _ ⟨⟩)
  | array => exact respectsEquality_array
  | _ => exact respectsEquality_ofGuard _

/-- JSON data are compared without guards. -/
theorem everyGuard_ofJson {kind : Predicate ε Value → Prop} (j : Json) :
    (ofJson j).EveryGuard kind := by
  induction j with
  | null => exact everyGuard_of_isLeaf trivial (by rintro _ ⟨⟩)
  | bool b => exact everyGuard_of_isLeaf trivial (by rintro _ ⟨⟩)
  | number n => exact everyGuard_of_isLeaf trivial (by rintro _ ⟨⟩)
  | string s => exact everyGuard_of_isLeaf trivial (by rintro _ ⟨⟩)
  | array items ih =>
    rw [ofJson, ofJsonItems_eq_map]
    exact (everyPart_elements_iff (by simp)).2 (List.forall_mem_map.2 ih)
  | object members ih =>
    rw [ofJson, ofJsonMembers_eq_map]
    exact (everyPart_fields_iff (by simp)).2 (List.forall_mem_map.2 ih)

end Pattern

/-! ### Rule sets -/

/-- The guards of a declared pattern are those of the type names in it, and tests of the opening of
a string. -/
theorem PatternSpec.respectsEquality_toPattern (s : PatternSpec) :
    (s.toPattern : Pattern ε).EveryGuard Predicate.RespectsEquality := by
  induction s with
  | equals j => exact Pattern.everyGuard_ofJson j
  | oneOf js =>
    rw [toPattern, oneOfPattern]
    split
    · exact Pattern.everyGuard_of_isLeaf trivial (by simp)
    · exact (Pattern.everyPart_anyOf_iff (by simp)).2
        (List.forall_mem_map.2 fun j _ => Pattern.everyGuard_ofJson j)
  | not s ih => exact (Pattern.everyPart_not_iff (by simp)).2 ih
  | type t => exact Pattern.respectsEquality_typeName t
  | startsWith start => exact Pattern.respectsEquality_startsWith start
  | fields fs ih =>
    rw [toPattern, toPatternFields_eq_map]
    exact (Pattern.everyPart_fields_iff (by simp)).2 (List.forall_mem_map.2 ih)
  | elements ss ih =>
    rw [toPattern, toPatterns_eq_map]
    exact (Pattern.everyPart_elements_iff (by simp)).2 (List.forall_mem_map.2 ih)
  | allOf ss ih =>
    rw [toPattern, toPatterns_eq_map]
    exact (Pattern.everyPart_allOf_iff (by simp)).2 (List.forall_mem_map.2 ih)
  | anyOf ss ih =>
    rw [toPattern, toPatterns_eq_map]
    exact (Pattern.everyPart_anyOf_iff (by simp)).2 (List.forall_mem_map.2 ih)

/-- Two equal values satisfy the same declarations. -/
theorem PatternSpec.satisfiedBy_eq_of_alike (missing : MissingFields) (s : PatternSpec)
    {v w : Value} (h : v.Alike w) : s.satisfiedBy missing v = s.satisfiedBy missing w := by
  have hadmits := Pattern.admits_eq_of_alike (s.respectsEquality_toPattern (ε := Unit)) missing h
  simpa only [Pattern.admits, meaning_toPattern, Traced.value_pure] using hadmits

/-- The data that a rule set yields, if it yields any, are the same for two equal values. The
message of a failure shows the value and may differ. -/
theorem RuleSet.toOption_meaning_eq_of_alike (r : RuleSet) {v w : Value} (h : v.Alike w) :
    (r.meaning v).toOption = (r.meaning w).toOption := by
  have happlies : Rule.appliesTo r.options v = Rule.appliesTo r.options w :=
    funext fun rule => rule.condition.satisfiedBy_eq_of_alike r.options.missingFields h
  -- the same rule is found; data do not depend on the value, only the message of a failure does
  rw [meaning, meaning, happlies]
  cases r.rules.find? (Rule.appliesTo r.options w) <;> cases r.otherwise <;> rfl

/-- **Equal values cannot be told apart.** A compiled pattern whose guards respect equality accepts
both of two equal values or neither. The guards that the vocabulary of patterns and the declared
patterns make use of do respect equality; so a compiled rule set yields the same data for two equal
values, or fails on both. -/
theorem Pattern.accepts_eq_of_equals {τ : Type} :
    (∀ p : Pattern ε, p.EveryGuard Predicate.RespectsEquality →
      ∀ (o : MatchOptions) (v w : Value), v.WellFormed → w.WellFormed → (v == w) = true →
        ((p.compile o).accepts v).value = ((p.compile o).accepts w).value) ∧
    (∀ p ∈ (plainWords : List (Pattern ε)), p.EveryGuard Predicate.RespectsEquality) ∧
    (∀ start, (startsWith start : Pattern ε).EveryGuard Predicate.RespectsEquality) ∧
    (∀ name, (instanceOf name : Pattern ε).EveryGuard Predicate.RespectsEquality) ∧
    (∀ t : TypeName, (t.toPattern : Pattern ε).EveryGuard Predicate.RespectsEquality) ∧
    ∀ (r : RuleSet) (v w : Value), v.WellFormed → w.WellFormed → (v == w) = true →
      ((r.compile : Traced (Event τ) _).value.run v).value.toOption
        = ((r.compile : Traced (Event τ) _).value.run w).value.toOption := by
  refine ⟨?_, respectsEquality_plainWords, respectsEquality_startsWith,
    respectsEquality_instanceOf, respectsEquality_typeName, ?_⟩
  · intro p hg o v w hv hw h
    rw [value_accepts_compile, value_accepts_compile, admits_eq_of_alike hg _ ⟨hv, hw, h⟩]
  · intro r v w hv hw h
    rw [RuleSet.compile_eq, RuleSet.run_eq, RuleSet.run_eq]
    exact r.toOption_meaning_eq_of_alike ⟨hv, hw, h⟩

/-- Two records that differ in the order of their properties and in the sign of a zero further
inside: what is seen of one of them holds of the other. -/
theorem Pattern.accepts_eq_of_reordered :
    let v : Value := .object ⟨none, [(.string "kind", .string "point"),
      (.string "at", .array [.number .zero])]⟩
    let w : Value := .object ⟨none, [(.string "at", .array [.number .negativeZero]),
      (.string "kind", .string "point")]⟩
    let p : Pattern Unit := .fields [(.string "at", .elements [.not .nonEmptyString]),
      (.string "kind", .startsWith "po")]
    let r : RuleSet := { rules := [⟨.fields [("kind", .type .string)], .bool true⟩] }
    (v == w) = true ∧ ((p.compile {}).accepts w).value = true ∧
      ((r.compile : Traced (Event Unit) _).value.run w).value.toOption = some (.bool true) := by
  intro v w p r
  -- both values are denoted by JSON data
  have hv : v.WellFormed := Json.wellFormed_toValue
    (.object [("kind", .string "point"), ("at", .array [.number (.real .zero)])])
  have hw : w.WellFormed := Json.wellFormed_toValue
    (.object [("at", .array [.number (.real .negativeZero)]), ("kind", .string "point")])
  have heq : (v == w) = true := by decide
  obtain ⟨haccepts, hwords, hstart, -, -, hrules⟩ := accepts_eq_of_equals (ε := Unit) (τ := Unit)
  have hp : p.EveryGuard Predicate.RespectsEquality := by
    refine (everyPart_fields_iff (by simp)).2 (List.forall_mem_cons.2 ⟨?_, ?_⟩)
    · refine (everyPart_elements_iff (by simp)).2 (List.forall_mem_singleton.2 ?_)
      refine (everyPart_not_iff (by simp)).2 ?_
      exact hwords _ (by simp [plainWords])
    · exact List.forall_mem_singleton.2 (hstart "po")
  refine ⟨heq, ?_, ?_⟩
  · rw [← haccepts p hp {} v w hv hw heq]
    decide
  · rw [← hrules r v w hv hw heq]
    rfl

end Casewise
