import Casewise.Proofs.FirstMatch

/-!
# The two builders agree

The same program can be run on a builder that collects clauses for inputs to come, or on a builder
that has its input and tries every clause as it is registered. The two are written separately: one
searches a list and takes the number of a clause from its position, the other keeps a result and a
counter. They agree in outcome and trace, and their states correspond after every part of a program:

* `BoundMatcher.agrees_with_matcher` — the outcomes, the traces and the states in between.

Both builders register the same list of entries (`Step.runAll_eq_registerAll`). On it the builder
that has its input performs the very search that the collected clauses are put to later
(`BoundMatcher.ofSteps_eq`), with the counter as the number of the next clause.

Guards and handlers are arbitrary and may emit any marks, for instance their own calls with their
arguments. That the traces are equal therefore means that the same guards and handlers are called,
on the same values and in the same order.
-/

namespace Casewise.BoundMatcher

variable {τ ρ : Type}

/-- The state after a program: the input, the result of the search through its entries, and their
number. -/
theorem value_ofSteps (input : Value) (o : MatchOptions) (steps : List (Step τ ρ)) :
    (ofSteps input o steps).value
      = ⟨input, (Clause.firstMatch input 0 ((Entry.ofSteps o steps).map (Entry.clause o))).value,
          (Entry.ofSteps o steps).length, o⟩ := by
  -- the closed form of the run, without its events
  rw [ofSteps_eq]
  rfl

/-- The outcome under a terminal is that of the collected clauses. -/
theorem finish_ofSteps (input : Value) (o : MatchOptions) (steps : List (Step τ ρ))
    (t : Terminal τ ρ) :
    (do let b ← ofSteps input o steps; b.finish t)
      = ((MatcherBuilder.ofSteps o steps).finish t).value.run input := by
  have hbuilt : ((MatcherBuilder.ofSteps o steps).finish t).value
      = ⟨(Entry.ofSteps o steps).map (Entry.clause o), t⟩ := by
    rw [MatcherBuilder.ofSteps_eq]
    rfl
  rw [ofSteps_eq, hbuilt, Matcher.run, bind_assoc]
  -- the two searches are one; behind them the one matcher closes on the result, the other on itself
  refine bind_congr fun result? => ?_
  rw [pure_bind, finish_eq]

/-- The matcher is settled exactly if one of the collected clauses accepts its input. -/
theorem isMatched_ofSteps (input : Value) (o : MatchOptions) (steps : List (Step τ ρ)) :
    (ofSteps input o steps).value.isMatched = true ↔
      ∃ c ∈ (MatcherBuilder.ofSteps o steps).clauses, (c.accepts input).value = true := by
  -- the search finds a result exactly if some clause accepts
  rw [value_ofSteps, MatcherBuilder.ofSteps_eq]
  exact Clause.isSome_firstMatch input 0 _

/-- A settled matcher is done: further steps are counted, and that is all. -/
theorem runAll_of_isMatched {b : BoundMatcher τ ρ} (h : b.isMatched = true)
    (steps : List (Step τ ρ)) :
    Step.runAll (m := Traced (Event τ)) steps b
      = pure { b with clauses := b.clauses + (Entry.ofSteps b.options steps).length } := by
  obtain ⟨r, hr⟩ := Option.isSome_iff_exists.1 h
  rw [Step.runAll_eq_registerAll]
  exact registerAll_of_some hr _

/-- **The two builders agree.** Under every terminal, a program run on a builder that has its input
ends with the outcome and the trace of the matcher that the program builds, run on that input. After
every part of the program the first builder is settled exactly if a clause of the second accepts
the input, and has counted as many clauses as the second has collected; once settled, it goes
through the rest of the program without an event and without a change but to the counter. -/
theorem agrees_with_matcher (o : MatchOptions) (input : Value) (steps : List (Step τ ρ)) :
    (∀ t : Terminal τ ρ,
      (do let b ← ofSteps input o steps; b.finish t)
        = ((MatcherBuilder.ofSteps o steps).finish t).value.run input) ∧
    ∀ before after : List (Step τ ρ), steps = before ++ after →
      ∃ b events, ofSteps input o before = ⟨b, events⟩ ∧
        (b.isMatched = true ↔
          ∃ c ∈ (MatcherBuilder.ofSteps o before).clauses, (c.accepts input).value = true) ∧
        b.clauses = (MatcherBuilder.ofSteps o before).clauses.length ∧
        (b.isMatched = true → ofSteps input o steps
          = ⟨{ b with clauses := (MatcherBuilder.ofSteps o steps).clauses.length }, events⟩) := by
  refine ⟨finish_ofSteps input o steps, ?_⟩
  intro before after hsteps
  have hmatched := isMatched_ofSteps input o before
  have hvalue := value_ofSteps input o before
  -- the counter is the number of entries, and each entry made one clause
  have hcount : (ofSteps input o before).value.clauses
      = (MatcherBuilder.ofSteps o before).clauses.length := by
    rw [hvalue, MatcherBuilder.ofSteps_eq, List.length_map]
  have hoptions : (ofSteps input o before).value.options = o := by rw [hvalue]
  have htotal : (MatcherBuilder.ofSteps o steps).clauses.length
      = (MatcherBuilder.ofSteps o before).clauses.length + (Entry.ofSteps o after).length := by
    rw [hsteps, MatcherBuilder.ofSteps_eq, MatcherBuilder.ofSteps_eq, List.length_map,
      List.length_map, Entry.ofSteps, List.flatMap_append, List.length_append]
    rfl
  generalize hrun : ofSteps input o before = run at hmatched hcount hoptions
  refine ⟨run.value, run.events, rfl, hmatched, hcount, ?_⟩
  intro hsettled
  -- the program is its first part, run to `run`, and then the second part on a settled matcher
  rw [hsteps, ofSteps, Step.runAll_append, ← ofSteps, hrun]
  refine Traced.ext ?_ ?_
  · rw [Traced.value_bind, runAll_of_isMatched hsettled, hoptions, hcount, ← htotal, hsteps]
    rfl
  · rw [Traced.events_bind, runAll_of_isMatched hsettled, Traced.events_pure, List.append_nil]

/-- The first of two clauses settles the matcher, and the second is counted. -/
theorem agrees_once_settled :
    ∃ (b : BoundMatcher Unit Nat) (events : List (Event Unit)),
      ofSteps (.string "x") {} [.when .string fun _ => return 1] = ⟨b, events⟩ ∧
      b.clauses = 1 ∧
      ofSteps (.string "x") {} [.when .string fun _ => return 1, .when .defined fun _ => return 2]
        = ⟨{ b with clauses := 2 }, events⟩ := by
  obtain ⟨-, hparts⟩ := agrees_with_matcher (τ := Unit) (ρ := Nat) {} (.string "x")
    [.when .string fun _ => return 1, .when .defined fun _ => return 2]
  obtain ⟨b, events, hfirst, hmatched, hcount, hrest⟩ :=
    hparts [.when .string fun _ => return 1] [.when .defined fun _ => return 2] rfl
  have haccepts : ∃ c ∈ (MatcherBuilder.ofSteps (τ := Unit) (ρ := Nat) {}
      [.when .string fun _ => return 1]).clauses, (c.accepts (.string "x")).value = true :=
    ⟨_, List.mem_singleton.2 rfl, rfl⟩
  exact ⟨b, events, hfirst, hcount, hrest (hmatched.2 haccepts)⟩

end Casewise.BoundMatcher
