import Casewise.Proofs.FirstMatch
import Casewise.Proofs.Satisfaction

/-!
# A rule set means what it says

A rule set goes a long way before it is applied to a value: its conditions become patterns, the
patterns are compiled, the compiled patterns become clauses, the clauses are searched by a matcher
without a policy for misses, and the fallback is consulted behind the matcher. What comes out is
what can be read off the rules:

* `RuleSet.compiled_run_eq_meaning` — the compiled rule set yields the data of the first rule that
  applies, else the fallback, else a failure; and so does a matcher in which the same clauses are
  registered by hand, under the terminal that suits the fallback.

Every rule is an entry whose test emits nothing and answers whether the rule applies
(`Rule.asks_entry`), so the results on first matches carry over under any terminal
(`RuleSet.run_matcher_of_find?_eq_some`, `RuleSet.run_matcher_of_find?_eq_none`).
-/

namespace Casewise

variable {τ : Type}

/-! ### Rules as entries -/

namespace Rule

/-- The step that registers a rule by hand. -/
def step (rule : Rule) : Step τ Json :=
  .when rule.condition.toPattern fun _ => return rule.result

/-- The entry of that step. -/
def entry (rule : Rule) : Entry τ Json := ⟨rule.condition.toPattern, fun _ => return rule.result⟩

/-- The test of a rule is whether it applies. -/
theorem asks_entry (o : MatchOptions) (v : Value) (rule : Rule) :
    (rule.entry : Entry τ Json).asks o v = pure (rule.appliesTo o v) :=
  rule.condition.meaning_toPattern o.missingFields v

end Rule

/-- Testing rules emits nothing. -/
theorem Entry.testEvents_rules (o : MatchOptions) (v : Value) (rules : List Rule) :
    Entry.testEvents o v (rules.map Rule.entry) = ([] : List (Event τ)) := by
  rw [Entry.testEvents, List.flatMap_map, List.flatMap_eq_nil_iff]
  intro rule _
  rw [Rule.asks_entry, Traced.events_pure]

/-- Rules that do not apply reject the value as entries. -/
theorem Entry.rejects_rules {o : MatchOptions} {v : Value} {rules : List Rule}
    (h : ∀ rule ∈ rules, rule.appliesTo o v = false) :
    ∀ e ∈ rules.map (Rule.entry : Rule → Entry τ Json), (e.asks o v).value = false := by
  intro e he
  obtain ⟨rule, hrule, rfl⟩ := List.mem_map.1 he
  rw [Rule.asks_entry, Traced.value_pure, h rule hrule]

/-! ### Runs through rules -/

namespace RuleSet

/-- The rules as clauses, in order, under a terminal. -/
def matcher (r : RuleSet) (t : Terminal τ Json) : Matcher τ Json :=
  ⟨(r.rules.map Rule.entry).map (Entry.clause r.options), t⟩

/-- A run through rules one of which applies: the first that does is reported and yields its
data. -/
theorem run_matcher_of_find?_eq_some {r : RuleSet} {v : Value} {rule : Rule}
    (h : r.rules.find? (Rule.appliesTo r.options v) = some rule) (t : Terminal τ Json) :
    ∃ i, r.rules.findIdx? (Rule.appliesTo r.options v) = some i ∧
      (r.matcher t).run v = ⟨t.settled rule.result, [.report (.clauseMatched i)]⟩ := by
  obtain ⟨happlies, before, after, hsplit, hbefore⟩ := List.find?_eq_some_iff_append.1 h
  have hnone : ∀ d ∈ before, d.appliesTo r.options v = false := by
    intro d hd
    simpa using hbefore d hd
  have haccepts : ((rule.entry : Entry τ Json).asks r.options v).value = true := by
    rw [Rule.asks_entry, Traced.value_pure, happlies]
  have hrun := Matcher.run_of_accepts (Entry.rejects_rules hnone) haccepts
    (after.map Rule.entry) t
  -- the rules up to the one that applies are tested in silence
  have htests : Entry.testEvents r.options v (before.map Rule.entry ++ [rule.entry])
      = ([] : List (Event τ)) := by
    have hall := Entry.testEvents_rules (τ := τ) r.options v (before ++ [rule])
    rwa [List.map_append, List.map_singleton] at hall
  refine ⟨before.length, ?_, ?_⟩
  · rw [hsplit, List.findIdx?_append, List.findIdx?_eq_none_iff.2 hnone, List.findIdx?_cons,
      if_pos happlies, Option.none_or, Option.map_some, Nat.zero_add]
  · rw [matcher, hsplit, List.map_append, List.map_cons, hrun, htests, List.length_map]
    rfl

/-- A run through rules none of which applies is a miss. -/
theorem run_matcher_of_find?_eq_none {r : RuleSet} {v : Value}
    (h : r.rules.find? (Rule.appliesTo r.options v) = none) (t : Terminal τ Json) :
    r.rules.findIdx? (Rule.appliesTo r.options v) = none ∧ (r.matcher t).run v = t.missed v := by
  have hnone : ∀ rule ∈ r.rules, rule.appliesTo r.options v = false := by
    intro rule hrule
    simpa using List.find?_eq_none.1 h rule hrule
  refine ⟨List.findIdx?_eq_none_iff.2 hnone, ?_⟩
  rw [matcher, Matcher.run_of_rejects (Entry.rejects_rules hnone), Entry.testEvents_rules,
    List.nil_append]

/-! ### Rule sets as programs -/

/-- The program that registers the rules by hand. -/
def steps (r : RuleSet) : List (Step τ Json) := r.rules.map Rule.step

/-- Each rule is one entry of the program. -/
theorem ofSteps_steps (r : RuleSet) :
    Entry.ofSteps r.options r.steps = (r.rules.map Rule.entry : List (Entry τ Json)) := by
  rw [Entry.ofSteps, steps, List.flatMap_map, List.map_eq_flatMap]
  rfl

/-- The builder of a rule set is the one that the program makes. -/
theorem builder_eq (r : RuleSet) :
    (r.builder : MatcherBuilder τ Json) = MatcherBuilder.ofSteps r.options r.steps := by
  -- the accumulator of the fold is the builder that the program is run on
  have hfold : ∀ (rules : List Rule) (b : MatcherBuilder τ Json),
      rules.foldl
          (fun b rule => Id.run (Cases.when b rule.condition.toPattern fun _ => return rule.result))
          b
        = Id.run (Step.runAll (rules.map Rule.step) b) := by
    intro rules
    induction rules with
    | nil => exact fun _ => rfl
    | cons rule rules ih => exact fun b => ih _
  exact hfold r.rules _

/-- The matcher of the rules under a terminal, registered by hand. -/
theorem finish_steps (r : RuleSet) (t : Terminal τ Json) :
    (MatcherBuilder.ofSteps r.options r.steps).finish t
      = ⟨r.matcher t, [.report (.finalized r.rules.length t.name)]⟩ := by
  rw [MatcherBuilder.ofSteps_eq, ofSteps_steps, MatcherBuilder.finish, List.length_map,
    List.length_map]
  rfl

/-- A compiled rule set: the rules under a terminal that tolerates misses, and the fallback. -/
theorem compile_eq (r : RuleSet) :
    r.compile = (⟨⟨r.matcher .optional, r.otherwise⟩,
        [.report (.finalized r.rules.length "option"),
          .report (.rulesCompiled r.rules.length r.otherwise.isSome)]⟩ :
      Traced (Event τ) (CompiledRules τ)) := by
  rw [compile, builder_eq, finish_steps]
  rfl

/-- What applying a rule set leaves behind: the number of the rule that applies, if one does. -/
def reports (r : RuleSet) (v : Value) : List (Event τ) :=
  ((r.rules.findIdx? (Rule.appliesTo r.options v)).map fun i => .report (.clauseMatched i)).toList

/-- Applying the compiled rules: the meaning of the rule set, and no report but that of the rule
that applies. -/
theorem run_eq (r : RuleSet) (v : Value) :
    CompiledRules.run ⟨r.matcher .optional, r.otherwise⟩ v
      = (⟨r.meaning v, r.reports v⟩ : Traced (Event τ) (Except MatchError Json)) := by
  cases h : r.rules.find? (Rule.appliesTo r.options v) with
  -- a rule applies, and the fallback is not consulted
  | some rule =>
    obtain ⟨i, hi, hrun⟩ := run_matcher_of_find?_eq_some (τ := τ) h .optional
    rw [CompiledRules.run, hrun, meaning, reports, h, hi]
    rfl
  | none =>
    obtain ⟨hindex, hrun⟩ := run_matcher_of_find?_eq_none (τ := τ) h .optional
    rw [CompiledRules.run, hrun, meaning, reports, h, hindex]
    -- the miss is absent from the matcher, and the fallback is consulted behind it
    cases r.otherwise <;> rfl

end RuleSet

/-! ### The same rules under other terminals -/

/-- The outcome of a run that may fail. -/
def Outcome.ofExcept {ρ : Type} : Except MatchError ρ → Outcome ρ
  | .ok r => .ok r
  | .error e => .failed e

namespace RuleSet

/-- Without a fallback, the rules registered by hand and closed as exhaustive end as the rule set
means. -/
theorem value_run_exhaustive {r : RuleSet} (h : r.otherwise = none) (v : Value) :
    ((r.matcher (.exhaustive : Terminal τ Json)).run v).value = .ofExcept (r.meaning v) := by
  cases hfind : r.rules.find? (Rule.appliesTo r.options v) with
  | some rule =>
    obtain ⟨i, -, hrun⟩ := run_matcher_of_find?_eq_some (τ := τ) hfind .exhaustive
    rw [hrun, meaning, hfind]
    rfl
  -- no rule applies, and without a fallback this is a failure on both sides
  | none =>
    obtain ⟨-, hrun⟩ := run_matcher_of_find?_eq_none (τ := τ) hfind .exhaustive
    rw [hrun, meaning, hfind, h]
    rfl

/-- With a fallback, the rule set never fails, and the rules registered by hand and closed with that
fallback end with what the rule set yields. -/
theorem value_run_orElse {r : RuleSet} {fallback : Json} (h : r.otherwise = some fallback)
    (v : Value) :
    ∃ result, r.meaning v = .ok result ∧
      ((r.matcher (.orElse fun _ => return fallback : Terminal τ Json)).run v).value
        = .value result := by
  cases hfind : r.rules.find? (Rule.appliesTo r.options v) with
  | some rule =>
    obtain ⟨i, -, hrun⟩ := run_matcher_of_find?_eq_some (τ := τ) hfind
      (.orElse fun _ => return fallback)
    refine ⟨rule.result, ?_, ?_⟩
    · rw [meaning, hfind]
    · rw [hrun]
      rfl
  -- no rule applies: both sides come to the fallback
  | none =>
    obtain ⟨-, hrun⟩ := run_matcher_of_find?_eq_none (τ := τ) hfind
      (.orElse fun _ => return fallback)
    refine ⟨fallback, ?_, ?_⟩
    · rw [meaning, hfind, h]
    · rw [hrun]
      rfl

/-- What stands behind a rule that applies has no say: neither further rules nor the fallback. -/
theorem meaning_eq_of_applies {r r' : RuleSet} {v : Value} {before after after' : List Rule}
    {rule : Rule} (hrules : r.rules = before ++ rule :: after)
    (hrules' : r'.rules = before ++ rule :: after') (hoptions : r'.options = r.options)
    (happlies : rule.appliesTo r.options v = true) :
    r'.meaning v = r.meaning v ∧ (r'.reports v : List (Event τ)) = r.reports v := by
  -- both searches end at the rule at the latest, whatever comes after it
  have hfind : ∀ rest, (before ++ rule :: rest).find? (Rule.appliesTo r.options v)
      = (before.find? (Rule.appliesTo r.options v)).or (some rule) := by
    intro rest
    rw [List.find?_append, List.find?_cons_of_pos happlies]
  have hindex : ∀ rest, (before ++ rule :: rest).findIdx? (Rule.appliesTo r.options v)
      = (before.findIdx? (Rule.appliesTo r.options v)).or (some before.length) := by
    intro rest
    rw [List.findIdx?_append, List.findIdx?_cons, if_pos happlies, Option.map_some, Nat.zero_add]
  refine ⟨?_, ?_⟩
  · rw [meaning, meaning, hrules, hrules', hoptions, hfind, hfind]
    cases before.find? (Rule.appliesTo r.options v) <;> rfl
  · rw [reports, reports, hrules, hrules', hoptions, hindex, hindex]

/-- **A rule set means what it says.** On every value, the compiled rules yield the data of the
first rule whose condition is satisfied, else the fallback, else a failure with the value rendered,
and report at most the number of that rule. So do the rules registered by hand, closed as exhaustive
where there is no fallback and with the fallback where there is one. The tag field of the options
has no bearing on it, nor has what stands behind a rule that applies. -/
theorem compiled_run_eq_meaning (r : RuleSet) (v : Value) :
    ∃ (c : CompiledRules τ) (events : List (Event τ)), r.compile = ⟨c, events⟩ ∧
      c.run v = ⟨r.meaning v, r.reports v⟩ ∧
      (r.otherwise = none →
        (((MatcherBuilder.ofSteps r.options r.steps).finish
          (.exhaustive : Terminal τ Json)).value.run v).value = .ofExcept (c.run v).value) ∧
      (∀ fallback, r.otherwise = some fallback →
        ∃ result, (c.run v).value = .ok result ∧
          (((MatcherBuilder.ofSteps r.options r.steps).finish
            (.orElse fun _ => return fallback : Terminal τ Json)).value.run v).value
              = .value result) ∧
      (∀ tagField,
        (compile { r with options := { r.options with tagField := tagField } }).value.run v
          = c.run v) ∧
      (∀ before rule after, r.rules = before ++ rule :: after →
        rule.condition.satisfiedBy r.options.missingFields v = true →
        ∀ after' otherwise',
          (compile ⟨r.options, before ++ rule :: after', otherwise'⟩).value.run v = c.run v) := by
  have hrun := run_eq (τ := τ) r v
  refine ⟨_, _, compile_eq r, hrun, ?_, ?_, ?_, ?_⟩
  · intro hnone
    rw [finish_steps, hrun]
    exact value_run_exhaustive hnone v
  · intro fallback hsome
    rw [finish_steps, hrun]
    exact value_run_orElse hsome v
  -- conditions are made of declared patterns, none of which looks at the tag field
  · intro tagField
    rw [compile_eq, run_eq, hrun]
    rfl
  · intro before rule after hrules happlies after' otherwise'
    have hsame : meaning ⟨r.options, before ++ rule :: after', otherwise'⟩ v = r.meaning v ∧
        reports ⟨r.options, before ++ rule :: after', otherwise'⟩ v
          = (r.reports v : List (Event τ)) :=
      meaning_eq_of_applies hrules rfl rfl happlies
    rw [compile_eq, run_eq, hrun, hsame.1, hsame.2]

/-- One rule and a fallback, on a value that the rule is not meant for. -/
theorem compiled_run_with_fallback :
    ∃ c : CompiledRules Unit,
      c.run .null = ⟨.ok (.bool false), []⟩ ∧
      ∃ m : Matcher Unit Json, m.clauseCount = 1 ∧
        (m.run .null).value = .value (.bool false) := by
  obtain ⟨c, -, -, hrun, -, hfallback, -⟩ := compiled_run_eq_meaning (τ := Unit)
    ⟨{}, [⟨.type .string, .string "text"⟩], some (.bool false)⟩ .null
  obtain ⟨result, hresult, hvalue⟩ := hfallback (.bool false) rfl
  have hfalse : c.run .null = ⟨.ok (.bool false), []⟩ := hrun
  rw [hfalse] at hresult
  cases hresult
  exact ⟨c, hfalse, _, rfl, hvalue⟩

end RuleSet

end Casewise
