import Casewise.Proofs.Compilation
import Casewise.Rules.Meaning

/-!
# A declared pattern means its declaration

`PatternSpec.toPattern` turns a declaration into a pattern, with two forms for a choice among JSON
data: a set of literals where all of them are scalars, and a disjunction of templates otherwise.
`PatternSpec.satisfiedBy` reads the declaration itself. The two say the same of every value:

* `PatternSpec.meaning_toPattern` — the pattern of a declaration is tested without an event, and the
  answer is whether the value satisfies the declaration;
* `Pattern.meaning_ofJson` — the same for JSON data, where the declaration is partial equality.

Both are inductions over nested data whose cases over lists come in two kinds, templates over
positions and templates over properties. Each kind has one lemma, for lists of anything that is
turned into patterns (`Pattern.meaning_elements_of_pure`, `Pattern.meaning_fields_of_pure`).
-/

namespace Casewise

variable {ε α β : Type}

/-! ### Recursion over lists, restated -/

/-- A comparison position by position that asks for as many items as there are tests: the lengths
can be compared first. -/
private theorem prefix_eq_length_and_all {test : α → β → Bool} {holds : List α → List β → Bool}
    (hnil : ∀ bs, holds [] bs = true) (hshort : ∀ a as, holds (a :: as) [] = false)
    (hcons : ∀ a as b bs, holds (a :: as) (b :: bs) = (test a b && holds as bs))
    (as : List α) (bs : List β) :
    holds as bs = (decide (as.length ≤ bs.length) && (as.zip bs).all fun e => test e.1 e.2) := by
  induction as generalizing bs with
  | nil => rw [hnil, List.zip_nil_left, List.all_nil, Bool.and_true, List.length_nil,
      decide_eq_true (Nat.zero_le _)]
  | cons a as ih =>
    -- where the second list ends first, the comparison fails and so does that of the lengths
    cases bs with
    | nil => rw [hshort]; rfl
    | cons b bs =>
      rw [hcons, ih, List.zip_cons_cons, List.all_cons, Bool.and_left_comm]
      simp only [List.length_cons, Nat.add_le_add_iff_right]

namespace Json

/-- Partial equality of an array compares as many items as the data have, and there must be as
many. -/
theorem partlyEqualsPrefix_eq (missing : MissingFields) (js : List Json) (vs : List Value) :
    partlyEqualsPrefix missing js vs
      = (decide (js.length ≤ vs.length) &&
          (js.zip vs).all fun e => e.1.partlyEquals missing e.2) :=
  prefix_eq_length_and_all (fun _ => rfl) (fun _ _ => rfl) (fun _ _ _ _ => rfl) js vs

/-- Partial equality of an object asks one question for each member. -/
theorem partlyEqualsMembers_eq_all (missing : MissingFields) (ms : List (String × Json))
    (v : Value) :
    partlyEqualsMembers missing ms v
      = ms.all fun m => missing.holdsAt v (.string m.1) (m.2.partlyEquals missing) := by
  induction ms with
  | nil => rfl
  | cons m ms ih => rw [partlyEqualsMembers, List.all_cons, ih]

end Json

namespace PatternSpec

/-- A template over positions compares as many items as it lists, and there must be as many. -/
theorem prefixSatisfiedBy_eq (missing : MissingFields) (ss : List PatternSpec) (vs : List Value) :
    prefixSatisfiedBy missing ss vs
      = (decide (ss.length ≤ vs.length) &&
          (ss.zip vs).all fun e => e.1.satisfiedBy missing e.2) :=
  prefix_eq_length_and_all (fun _ => rfl) (fun _ _ => rfl) (fun _ _ _ _ => rfl) ss vs

/-- A template over properties asks one question for each field. -/
theorem fieldsSatisfiedBy_eq_all (missing : MissingFields) (fs : List (String × PatternSpec))
    (v : Value) :
    fieldsSatisfiedBy missing fs v
      = fs.all fun f => missing.holdsAt v (.string f.1) (f.2.satisfiedBy missing) := by
  induction fs with
  | nil => rfl
  | cons f fs ih => rw [fieldsSatisfiedBy, List.all_cons, ih]

/-- A conjunction asks all of its declarations. -/
theorem allSatisfiedBy_eq_all (missing : MissingFields) (ss : List PatternSpec) (v : Value) :
    allSatisfiedBy missing ss v = ss.all fun s => s.satisfiedBy missing v := by
  induction ss with
  | nil => rfl
  | cons s ss ih => rw [allSatisfiedBy, List.all_cons, ih]

/-- A disjunction asks for one of its declarations. -/
theorem anySatisfiedBy_eq_any (missing : MissingFields) (ss : List PatternSpec) (v : Value) :
    anySatisfiedBy missing ss v = ss.any fun s => s.satisfiedBy missing v := by
  induction ss with
  | nil => rfl
  | cons s ss ih => rw [anySatisfiedBy, List.any_cons, ih]

/-- Declarations become patterns one by one. -/
theorem toPatterns_eq_map (ss : List PatternSpec) :
    (toPatterns ss : List (Pattern ε)) = ss.map toPattern := by
  induction ss with
  | nil => rfl
  | cons s ss ih => rw [toPatterns, List.map_cons, ih]

/-- Fields become patterns one by one, under the same keys. -/
theorem toPatternFields_eq_map (fs : List (String × PatternSpec)) :
    (toPatternFields fs : List (PropertyKey × Pattern ε))
      = fs.map fun f => (.string f.1, f.2.toPattern) := by
  induction fs with
  | nil => rfl
  | cons f fs ih => rw [toPatternFields, List.map_cons, ih]

end PatternSpec

/-- A question about a property emits nothing if the test that it hands on emits nothing. -/
theorem MissingFields.ask_of_pure (missing : MissingFields) {test : Value → Traced ε Bool}
    {holds : Value → Bool} (h : ∀ w, test w = pure (holds w)) (v : Value) (key : PropertyKey) :
    missing.ask v key test = pure (missing.holdsAt v key holds) := by
  unfold ask holdsAt
  -- a property that is there is tested; one that is missing fails, or `undefined` is tested
  cases v.property? key with
  | some w => exact h w
  | none =>
    cases missing with
    | reject => rfl
    | undefined => exact h .undefined

namespace Pattern

/-- The items of an array become patterns one by one. -/
theorem ofJsonItems_eq_map (js : List Json) :
    (ofJsonItems js : List (Pattern ε)) = js.map ofJson := by
  induction js with
  | nil => rfl
  | cons j js ih => rw [ofJsonItems, List.map_cons, ih]

/-- The members of an object become patterns one by one, under the same keys. -/
theorem ofJsonMembers_eq_map (ms : List (String × Json)) :
    (ofJsonMembers ms : List (PropertyKey × Pattern ε))
      = ms.map fun m => (.string m.1, ofJson m.2) := by
  induction ms with
  | nil => rfl
  | cons m ms ih => rw [ofJsonMembers, List.map_cons, ih]

/-! ### Templates of tests without events -/

variable {missing : MissingFields} {toPattern : α → Pattern ε} {holds : α → Value → Bool}
  {as : List α}

/-- A template over positions, the patterns in which emit nothing. -/
theorem meaning_elements_of_pure
    (h : ∀ a ∈ as, ∀ w, (toPattern a).meaning missing w = pure (holds a w)) (v : Value) :
    (elements (as.map toPattern)).meaning missing v
      = pure (v.items?.any fun vs =>
          decide (as.length ≤ vs.length) && (as.zip vs).all fun e => holds e.1 e.2) := by
  rw [meaning]
  cases v.items? with
  | none => rfl
  | some vs =>
    have heach : ∀ e ∈ as.zip vs, (toPattern e.1).meaning missing e.2 = pure (holds e.1 e.2) :=
      fun e he => h e.1 (List.of_mem_zip he).1 e.2
    dsimp only [Option.any]
    rw [meaningEach_eq_all, List.length_map, List.zip_map_left, Traced.all_map]
    -- an array that is too short is refused before any of its items is looked at
    by_cases hlen : as.length ≤ vs.length
    · rw [if_pos hlen, decide_eq_true hlen, Bool.true_and]
      exact Traced.all_of_pure heach
    · rw [if_neg hlen, decide_eq_false hlen, Bool.false_and]

/-- A template over properties, the patterns in which emit nothing. -/
theorem meaning_fields_of_pure {key : α → PropertyKey}
    (h : ∀ a ∈ as, ∀ w, (toPattern a).meaning missing w = pure (holds a w)) (v : Value) :
    (fields (as.map fun a => (key a, toPattern a))).meaning missing v
      = pure (v.isObjectLike && as.all fun a => missing.holdsAt v (key a) (holds a)) := by
  rw [meaning, meaningFields_eq_all, Traced.all_map]
  -- a value that is not object-like is refused without a question
  cases v.isObjectLike with
  | false => rfl
  | true =>
    rw [if_pos rfl, Bool.true_and]
    exact Traced.all_of_pure fun a ha => missing.ask_of_pure (h a ha) v (key a)

/-! ### Partial equality -/

/-- **The pattern of JSON data is partial equality with it.** -/
theorem meaning_ofJson (missing : MissingFields) (j : Json) (v : Value) :
    (ofJson j : Pattern ε).meaning missing v = pure (j.partlyEquals missing v) := by
  induction j generalizing v with
  | null => rfl
  | bool b => rfl
  | number n => rfl
  | string s => rfl
  | array items ih =>
    rw [ofJson, ofJsonItems_eq_map, meaning_elements_of_pure ih, Json.partlyEquals,
      funext (Json.partlyEqualsPrefix_eq missing items)]
  | object members ih =>
    rw [ofJson, ofJsonMembers_eq_map, meaning_fields_of_pure ih, Json.partlyEquals,
      Json.partlyEqualsMembers_eq_all]

end Pattern

/-- Where a scalar is a literal, partial equality is strict equality. -/
theorem Json.partlyEquals_of_ofJson? {j : Json} {l : Literal} (h : Literal.ofJson? j = some l)
    (missing : MissingFields) (v : Value) : l.strictEquals v = j.partlyEquals missing v := by
  cases j with
  -- compounds have no literal
  | array items => cases h
  | object members => cases h
  | _ => cases h; rfl

/-- If all of the data are scalars, the set of their literals may stand for them. -/
theorem Json.any_partlyEquals_of_mapM {js : List Json} {ls : List Literal}
    (h : js.mapM Literal.ofJson? = some ls) (missing : MissingFields) (v : Value) :
    (ls.any fun l => l.strictEquals v) = js.any fun j => j.partlyEquals missing v := by
  induction js generalizing ls with
  | nil => cases h; rfl
  | cons j js ih =>
    -- all data have literals, so the first has one and the others have theirs
    rw [List.mapM_cons] at h
    obtain ⟨l, hl, hrest⟩ := Option.bind_eq_some_iff.1 h
    obtain ⟨ls', hls', hcons⟩ := Option.bind_eq_some_iff.1 hrest
    cases hcons
    rw [List.any_cons, List.any_cons, ih hls', partlyEquals_of_ofJson? hl]

/-! ### Declarations -/

/-- The pattern of a type name tests what the name stands for. -/
theorem TypeName.meaning_toPattern (missing : MissingFields) (t : TypeName) (v : Value) :
    (t.toPattern : Pattern ε).meaning missing v = pure (t.holds v) := by
  -- two names are literals and compare with the value; the others are guards
  cases t with
  | null => cases v <;> rfl
  | undefined => cases v <;> rfl
  | _ => rfl

namespace PatternSpec

/-- A choice among JSON data means the same in either of its two forms. -/
theorem meaning_oneOfPattern (missing : MissingFields) (js : List Json) (v : Value) :
    (oneOfPattern js : Pattern ε).meaning missing v
      = pure (js.any fun j => j.partlyEquals missing v) := by
  rw [oneOfPattern]
  split
  · -- scalars only: the set of their literals
    next ls hls => rw [Pattern.meaning, Json.any_partlyEquals_of_mapM hls missing v]
  -- some data are compounds: one template for each of them, scalars included
  · rw [Pattern.meaning, Pattern.meaningAny_eq_any, Traced.any_map]
    exact Traced.any_of_pure fun j _ => Pattern.meaning_ofJson missing j v

/-- **A declared pattern means its declaration.** Testing a value against the pattern emits nothing,
and the answer is whether the value satisfies the declaration. -/
theorem meaning_toPattern (missing : MissingFields) (s : PatternSpec) (v : Value) :
    (s.toPattern : Pattern ε).meaning missing v = pure (s.satisfiedBy missing v) := by
  induction s generalizing v with
  | equals j => exact Pattern.meaning_ofJson missing j v
  | oneOf js => exact meaning_oneOfPattern missing js v
  | type t => exact t.meaning_toPattern missing v
  | startsWith start => rfl
  | not s ih => rw [toPattern, Pattern.meaning, ih, pure_bind, satisfiedBy]
  | fields fs ih =>
    rw [toPattern, toPatternFields_eq_map, Pattern.meaning_fields_of_pure ih, satisfiedBy,
      fieldsSatisfiedBy_eq_all]
  | elements ss ih =>
    rw [toPattern, toPatterns_eq_map, Pattern.meaning_elements_of_pure ih, satisfiedBy,
      funext (prefixSatisfiedBy_eq missing ss)]
  | allOf ss ih =>
    rw [toPattern, toPatterns_eq_map, Pattern.meaning, Pattern.meaningAll_eq_all, Traced.all_map,
      satisfiedBy, allSatisfiedBy_eq_all]
    exact Traced.all_of_pure fun s hs => ih s hs v
  | anyOf ss ih =>
    rw [toPattern, toPatterns_eq_map, Pattern.meaning, Pattern.meaningAny_eq_any, Traced.any_map,
      satisfiedBy, anySatisfiedBy_eq_any]
    exact Traced.any_of_pure fun s hs => ih s hs v

end PatternSpec

end Casewise
