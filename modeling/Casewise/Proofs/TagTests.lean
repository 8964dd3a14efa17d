import Casewise.Predicate.Guards
import Casewise.Proofs.Agreement
import Casewise.Proofs.MissingProperties
import Casewise.Proofs.TagDispatch

/-!
# The tests of a tag

That a property of the input is a certain string can be asked in many words: by guards, by
discriminators and tag clauses, by declarations, and by dispatch on the tag field. They go different
ways, some of which read `undefined` where there is no property. All of them come down to one fact,
`Value.HasTag`:

* `Predicate.isTaggedBy_iff`, `Value.isTagged_iff` — the guards;
* `Step.accepts_ofSteps_iff` — the clauses with one tag;
* `PatternSpec.accepts_fields_iff` — the declarations for one property;
* `Matcher.run_ofTags_of_hasTag`, `Matcher.head?_run_ofTags_iff` — dispatch, for the first line with
  the tag; both forms of it are one run (`BoundMatcher.dispatchTags_eq`);
* `Value.tag_tests_agree` — all of them.

The treatment of missing properties plays no part, since `undefined` is no string
(`Literal.isTagOf_string_iff`).
-/

namespace Casewise

variable {ε τ ρ : Type}

/-! ### Values with a tag -/

/-- An object or an error of which the property `field` is the string `tag`. -/
def Value.HasTag (field tag : String) (v : Value) : Prop :=
  ∃ r, (v = .object r ∨ v = .error r) ∧ r.get? (.string field) = some (.string tag)

variable {field tag : String} {v : Value}

/-- Objects and errors are what has properties. -/
theorem Value.hasTag_iff :
    v.HasTag field tag ↔ v.property? (.string field) = some (.string tag) := by
  constructor
  · rintro ⟨r, rfl | rfl, hr⟩
    · exact hr
    · exact hr
  · intro h
    cases v with
    | object r => exact ⟨r, .inl rfl, h⟩
    | error r => exact ⟨r, .inr rfl, h⟩
    | _ => cases h

/-- A string is strictly equal to itself alone. -/
theorem Literal.strictEquals_string_iff {w : Value} :
    (string tag).strictEquals w = true ↔ w = .string tag := by
  cases w with
  | string s =>
    have hstrict : (string tag).strictEquals (.string s) = (tag == s) := rfl
    rw [hstrict, beq_iff_eq, Value.string.injEq, eq_comm]
  | _ => exact iff_of_false Bool.false_ne_true nofun

/-- Only one literal is strictly equal to a string. -/
theorem Literal.strictEquals_value_string_iff {l : Literal} :
    l.strictEquals (.string tag) = true ↔ l = .string tag := by
  cases l <;> simp [strictEquals]

/-- **A value has a string for its tag under both treatments of missing properties, or neither.** -/
theorem Literal.isTagOf_string_iff {missing : MissingFields} :
    (string tag).isTagOf missing field v = true ↔ v.HasTag field tag := by
  rw [isTagOf_iff, Value.hasTag_iff]
  simp only [strictEquals_string_iff, exists_eq_right]
  unfold MissingFields.asked?
  cases v.property? (.string field) with
  | some w => rfl
  | none =>
    -- `undefined` may be asked about, but it is no string
    cases missing with
    | reject => simp
    | undefined => cases v.isObjectLike <;> simp

/-- A value that has a tag has no other. -/
theorem Literal.eq_of_isTagOf {missing : MissingFields} {l : Literal} (h : v.HasTag field tag)
    (hl : l.isTagOf missing field v = true) : l = .string tag := by
  obtain ⟨w, hw, hequal⟩ := isTagOf_iff.1 hl
  have hasked : missing.asked? v (.string field) = some (.string tag) := by
    unfold MissingFields.asked?
    rw [Value.hasTag_iff.1 h]
  cases hasked.symm.trans hw
  exact strictEquals_value_string_iff.1 hequal

/-! ### Guards -/

/-- The guard for any field. -/
theorem Predicate.isTaggedBy_iff :
    ((isTaggedBy field tag : Predicate ε Value).test v).value = true ↔ v.HasTag field tag := by
  have htest : ((isTaggedBy field tag : Predicate ε Value).test v).value
      = ((v.property? (.string field)).bind Value.text?).any (· == tag) := rfl
  rw [htest, Value.hasTag_iff]
  cases v.property? (.string field) with
  | none => simp
  | some w => cases w <;> simp [Value.text?]

/-- The guard for the field `_tag`, which reads `undefined` where there is no such property. -/
theorem Value.isTagged_iff : v.isTagged tag = true ↔ v.HasTag "_tag" tag := by
  rw [isTagged, hasTag_iff, get]
  cases hprop : v.property? (.string "_tag") with
  -- `undefined` has no text
  | none => simp [text?]
  | some w =>
    have hhas : v.hasProperty (.string "_tag") = true := by rw [hasProperty, hprop]; rfl
    rw [isObjectLike_of_hasProperty hhas]
    cases w <;> simp [text?]

/-! ### Clauses and declarations -/

/-- A step whose one clause asks for a tag. -/
theorem Step.accepts_ofSteps_iff {o : MatchOptions} {s : Step τ ρ} {h : Handler τ ρ}
    (hs : Entry.ofSteps o [s] = [Entry.ofLine field (.string tag, h)]) :
    (∃ c ∈ (MatcherBuilder.ofSteps o [s]).clauses, (c.accepts v).value = true) ↔
      v.HasTag field tag := by
  rw [MatcherBuilder.ofSteps_eq, hs, List.map_singleton]
  simp only [List.mem_singleton, exists_eq_left, Entry.accepts_clause, Entry.asks_ofLine,
    Traced.value_pure]
  exact Literal.isTagOf_string_iff

/-- A declaration for one property that asks for a string there. -/
theorem PatternSpec.accepts_fields_iff {s : PatternSpec} (o : MatchOptions)
    (hs : s.satisfiedBy o.missingFields = (Literal.string tag).strictEquals) :
    ((((fields [(field, s)]).toPattern : Pattern ε).compile o).accepts v).value = true ↔
      v.HasTag field tag := by
  -- the template has one field, and its test there is equality with the string
  rw [accepts_compile_toPattern, Traced.value_pure, satisfiedBy, fieldsSatisfiedBy_eq_all,
    List.all_cons, List.all_nil, Bool.and_true, hs, ← MissingFields.any_asked?]
  exact Literal.isTagOf_string_iff

/-! ### Dispatch -/

/-- Dispatch of one value is a run of the dispatcher. -/
theorem BoundMatcher.dispatchTags_eq (entries : List (Literal × Handler τ ρ)) (v : Value) :
    dispatchTags v entries = (Matcher.ofTags entries).value.run v := by
  have hsteps : (ofSteps v {} [.tags entries] : Traced (Event τ) (BoundMatcher τ ρ))
      = Cases.tags (withOptions v {}) entries := bind_pure _
  rw [dispatchTags, ← hsteps]
  exact finish_ofSteps v {} [.tags entries] .exhaustive

namespace Matcher

/-- A dispatcher is a matcher with one clause for each line. -/
theorem value_ofTags (entries : List (Literal × Handler τ ρ)) :
    (ofTags entries).value
      = ⟨(entries.map (Entry.ofLine "_tag")).map (Entry.clause {}), .exhaustive⟩ := by
  have hbuilt : (ofTags entries).value
      = ⟨(MatcherBuilder.ofSteps {} [.tags entries]).clauses, .exhaustive⟩ := rfl
  rw [hbuilt, MatcherBuilder.ofSteps_eq, Step.Dispatches.ofSteps_eq (.tags entries)]

section Line

variable {front : List (Literal × Handler τ ρ)}

/-- The run of a dispatcher of which the first line for the input is known. -/
theorem run_ofTags_of_isTagOf (hfront : ∀ l ∈ front, l.1.isTagOf .reject "_tag" v = false)
    (line : Literal × Handler τ ρ) (hline : line.1.isTagOf .reject "_tag" v = true)
    (back : List (Literal × Handler τ ρ)) :
    (ofTags (front ++ line :: back)).value.run v
      = ⟨.ok (line.2 v).value, .report (.clauseMatched front.length) :: (line.2 v).events⟩ := by
  have hnothing : ∀ e ∈ ([] : List (Entry τ ρ)), (e.asks {} v).value = false :=
    List.forall_mem_nil _
  have hrun := Entry.run_of_line hnothing hfront line hline back [] .exhaustive
  rw [List.nil_append, List.append_nil, List.length_nil, Nat.zero_add] at hrun
  rw [value_ofTags]
  exact hrun

/-- Without a line for the input, a dispatcher fails. -/
theorem run_ofTags_of_forall_isTagOf {entries : List (Literal × Handler τ ρ)}
    (h : ∀ l ∈ entries, l.1.isTagOf .reject "_tag" v = false) :
    (ofTags entries).value.run v
      = ⟨.failed (.unmatched v.display), [.report (.unmatched v.display)]⟩ := by
  have hrejects : ∀ e ∈ entries.map (Entry.ofLine "_tag"), (e.asks {} v).value = false :=
    Entry.rejects_lines h
  rw [value_ofTags, run_of_rejects hrejects, Entry.testEvents_lines]
  rfl

/-- **A value with the tag of a line is dispatched to it**, if no line before has the same tag. -/
theorem run_ofTags_of_hasTag (hfront : ∀ l ∈ front, l.1 ≠ .string tag) (hv : v.HasTag "_tag" tag)
    (h : Handler τ ρ) (back : List (Literal × Handler τ ρ)) :
    (ofTags (front ++ (.string tag, h) :: back)).value.run v
      = ⟨.ok (h v).value, .report (.clauseMatched front.length) :: (h v).events⟩ := by
  -- a line that would be taken first would have this very tag
  have hothers : ∀ l ∈ front, l.1.isTagOf .reject "_tag" v = false := fun l hl =>
    Bool.eq_false_iff.2 fun htag => hfront l hl (Literal.eq_of_isTagOf hv htag)
  exact run_ofTags_of_isTagOf hothers (.string tag, h) (Literal.isTagOf_string_iff.2 hv) back

/-- **A run opens with the report of the line that it dispatches to.** The input has the tag of that
line. -/
theorem isTagOf_of_head?_run_ofTags {line : Literal × Handler τ ρ}
    {back : List (Literal × Handler τ ρ)}
    (h : ((ofTags (front ++ line :: back)).value.run v).events.head?
      = some (.report (.clauseMatched front.length))) :
    line.1.isTagOf .reject "_tag" v = true := by
  cases hfind : (front ++ line :: back).find? fun l => l.1.isTagOf .reject "_tag" v with
  | none =>
    -- nothing is dispatched, and a failure is reported
    have hnone : ∀ l ∈ front ++ line :: back, l.1.isTagOf .reject "_tag" v = false := fun l hl =>
      Bool.eq_false_iff.2 (List.find?_eq_none.1 hfind l hl)
    rw [run_ofTags_of_forall_isTagOf hnone] at h
    cases h
  | some l =>
    obtain ⟨hl, before, after, hsplit, hbefore⟩ := List.find?_eq_some_iff_append.1 hfind
    have hothers : ∀ d ∈ before, d.1.isTagOf .reject "_tag" v = false := by
      intro d hd
      have hd := hbefore d hd
      rwa [Bool.not_eq_true'] at hd
    rw [hsplit, run_ofTags_of_isTagOf hothers l hl] at h
    -- the line that is dispatched to stands at the place that is reported
    have hlength : front.length = before.length := by
      injection h with hreport
      injection hreport with hclause
      injection hclause with hplace
      exact hplace.symm
    obtain ⟨-, hsame⟩ := List.append_inj hsplit hlength
    obtain ⟨rfl, -⟩ := List.cons.inj hsame
    exact hl

/-- **Dispatch to the first line with a tag** is what happens to the values with the tag. -/
theorem head?_run_ofTags_iff (hfront : ∀ l ∈ front, l.1 ≠ .string tag) (h : Handler τ ρ)
    (back : List (Literal × Handler τ ρ)) :
    ((ofTags (front ++ (.string tag, h) :: back)).value.run v).events.head?
        = some (.report (.clauseMatched front.length)) ↔ v.HasTag "_tag" tag := by
  constructor
  · intro hhead
    exact Literal.isTagOf_string_iff.1 (isTagOf_of_head?_run_ofTags hhead)
  · intro hv
    rw [run_ofTags_of_hasTag hfront hv]
    rfl

end Line

end Matcher

/-- **All tests of a tag agree.** Under any options, the following hold exactly of the objects and
errors whose property `field` is the string `tag`: the guard `isTaggedBy`; that a discriminator with
this tag fires, in a matcher built ahead or bound to the input; the same for a tag clause, where
`field` is the tag field of the options; and the declarations of equality with the tag, or with one
of it alone, for the property.

If the field is `_tag`, the guards `isTagged` are two more of them. So is dispatch on tags, ahead or
of one value, to a line that is the first with this tag: the run opens with the report of that line,
and then its handler is called on the value and gives the result. -/
theorem Value.tag_tests_agree (field tag : String) (v : Value) (o : MatchOptions)
    (h : Handler τ ρ) :
    ((((Predicate.isTaggedBy field tag : Predicate ε Value).test v).value = true ↔
        v.HasTag field tag) ∧
      ((∃ c ∈ (MatcherBuilder.ofSteps o [.discriminator field [.string tag] h]).clauses,
          (c.accepts v).value = true) ↔ v.HasTag field tag) ∧
      ((BoundMatcher.ofSteps v o [.discriminator field [.string tag] h]).value.isMatched = true ↔
        v.HasTag field tag) ∧
      ((∃ c ∈ (MatcherBuilder.ofSteps { o with tagField := field } [.tag (.string tag) h]).clauses,
          (c.accepts v).value = true) ↔ v.HasTag field tag) ∧
      ((BoundMatcher.ofSteps v { o with tagField := field } [.tag (.string tag) h]).value.isMatched
          = true ↔ v.HasTag field tag) ∧
      (((((PatternSpec.fields [(field, .equals (.string tag))]).toPattern : Pattern ε).compile
          o).accepts v).value = true ↔ v.HasTag field tag) ∧
      (((((PatternSpec.fields [(field, .oneOf [.string tag])]).toPattern : Pattern ε).compile
          o).accepts v).value = true ↔ v.HasTag field tag)) ∧
    (v.isTagged tag = true ↔ v.HasTag "_tag" tag) ∧
    (((Predicate.isTagged tag : Predicate ε Value).test v).value = true ↔ v.HasTag "_tag" tag) ∧
    ∀ front back : List (Literal × Handler τ ρ), (∀ l ∈ front, l.1 ≠ .string tag) →
      let entries := front ++ (.string tag, h) :: back
      (((Matcher.ofTags entries).value.run v).events.head?
          = some (.report (.clauseMatched front.length)) ↔ v.HasTag "_tag" tag) ∧
        ((BoundMatcher.dispatchTags v entries).events.head?
          = some (.report (.clauseMatched front.length)) ↔ v.HasTag "_tag" tag) ∧
        (v.HasTag "_tag" tag →
          (Matcher.ofTags entries).value.run v
            = ⟨.ok (h v).value, .report (.clauseMatched front.length) :: (h v).events⟩ ∧
          BoundMatcher.dispatchTags v entries
            = ⟨.ok (h v).value, .report (.clauseMatched front.length) :: (h v).events⟩) := by
  -- both declarations compare the property with the string
  have hequals : (PatternSpec.equals (.string tag)).satisfiedBy o.missingFields
      = (Literal.string tag).strictEquals := by
    funext w
    exact (Json.partlyEquals_of_ofJson? rfl o.missingFields w).symm
  have hone : (PatternSpec.oneOf [.string tag]).satisfiedBy o.missingFields
      = (Literal.string tag).strictEquals := by
    rw [← hequals]
    funext w
    exact Bool.or_false _
  refine ⟨⟨Predicate.isTaggedBy_iff, Step.accepts_ofSteps_iff rfl, ?_, Step.accepts_ofSteps_iff rfl,
    ?_, PatternSpec.accepts_fields_iff o hequals, PatternSpec.accepts_fields_iff o hone⟩,
    Value.isTagged_iff, Predicate.isTaggedBy_iff, ?_⟩
  · rw [BoundMatcher.isMatched_ofSteps]
    exact Step.accepts_ofSteps_iff rfl
  · rw [BoundMatcher.isMatched_ofSteps]
    exact Step.accepts_ofSteps_iff rfl
  · intro front back hfront
    -- the two forms of dispatch are one run
    dsimp only
    rw [BoundMatcher.dispatchTags_eq]
    have hhead := Matcher.head?_run_ofTags_iff (v := v) hfront h back
    have hrun : v.HasTag "_tag" tag → _ := fun hv => Matcher.run_ofTags_of_hasTag hfront hv h back
    exact ⟨hhead, hhead, fun hv => ⟨hrun hv, hrun hv⟩⟩

/-- An error with a tag is dispatched to the third line, which is the first with its tag, and the
handler of that line leaves a mark. -/
theorem Value.tag_tests_agree_on_error :
    let h : Handler Unit Nat := fun _ => ⟨3, [.mark ()]⟩
    let front : List (Literal × Handler Unit Nat) :=
      [(.undefined, fun _ => return 1), (.string "B", fun _ => return 2)]
    let v : Value := .error ⟨some "Failure", [(.string "_tag", .string "A")]⟩
    (∀ l ∈ front, l.1 ≠ .string "A") ∧ v.isTagged "A" = true ∧
      BoundMatcher.dispatchTags v (front ++ [(.string "A", h)])
        = ⟨.ok 3, [.report (.clauseMatched 2), .mark ()]⟩ := by
  intro h front v
  have hfront : ∀ l ∈ front, l.1 ≠ .string "A" :=
    List.forall_mem_cons.2 ⟨nofun, List.forall_mem_singleton.2 fun heq => by
      injection heq with hsame
      exact absurd hsame (by decide)⟩
  have hv : v.HasTag "_tag" "A" := ⟨_, .inr rfl, rfl⟩
  obtain ⟨-, hguard, -, hdispatch⟩ := tag_tests_agree (ε := Unit) "_tag" "A" v {} h
  exact ⟨hfront, hguard.2 hv, ((hdispatch front [] hfront).2.2 hv).2⟩

end Casewise
