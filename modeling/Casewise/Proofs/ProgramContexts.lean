import Casewise.Proofs.ProgramRuns

/-!
# Programs with a gap

Some laws exchange a few steps of a program for others and leave the rest as it is. The steps stand
among others, or inside a pipe among them, and pipes nest to any depth. What stays is a program with
a gap:

* `Step.Context` — the program around the gap, and `Step.Context.fill`, the program that steps make
  when they are put there.
* `Step.Context.before`, `Step.Context.after` — the steps that are performed before the gap and
  after it, whatever pipes they stand in.
* `Entry.ofSteps_fill` — pipes leave no trace among the entries: those of the steps in the gap stand
  between the entries of what is before and the entries of what is after.
* `Step.runsAlikeOn_fill`, `Step.runsAlike_fill` — programs run alike if the steps that fill the gap
  are searched with the same effects.
-/

namespace Casewise

variable {τ ρ : Type}

namespace Step

/-- A program with a gap, which is among its steps or inside a pipe among them. -/
inductive Context (τ ρ : Type) where
  | gap (before after : List (Step τ ρ))
  | pipe (before : List (Step τ ρ)) (inside : Context τ ρ) (after : List (Step τ ρ))

namespace Context

/-- The program with these steps in the gap. -/
def fill : Context τ ρ → List (Step τ ρ) → List (Step τ ρ)
  | .gap before after, steps => before ++ steps ++ after
  | .pipe before inside after, steps => before ++ [.pipe (inside.fill steps)] ++ after

/-- The steps that are performed before those in the gap. -/
def before : Context τ ρ → List (Step τ ρ)
  | .gap before _ => before
  | .pipe before inside _ => before ++ inside.before

/-- The steps that are performed after those in the gap. -/
def after : Context τ ρ → List (Step τ ρ)
  | .gap _ after => after
  | .pipe _ inside after => inside.after ++ after

end Context

end Step

namespace Entry

/-- Steps register their entries in order. -/
theorem ofSteps_append (o : MatchOptions) (steps steps' : List (Step τ ρ)) :
    ofSteps o (steps ++ steps') = ofSteps o steps ++ ofSteps o steps' :=
  List.flatMap_append

/-- A pipe registers what the steps inside register. -/
theorem ofSteps_pipe (o : MatchOptions) (steps : List (Step τ ρ)) :
    ofSteps o [.pipe steps] = ofSteps o steps := by
  rw [ofSteps, List.flatMap_singleton, Step.entries, Step.entriesAll_eq_flatMap, ofSteps]

/-- **The gap is one place among the entries.** -/
theorem ofSteps_fill (o : MatchOptions) (c : Step.Context τ ρ) (steps : List (Step τ ρ)) :
    ofSteps o (c.fill steps) = ofSteps o c.before ++ ofSteps o steps ++ ofSteps o c.after := by
  induction c with
  | gap before after => rw [Step.Context.fill, ofSteps_append, ofSteps_append]; rfl
  -- a pipe adds its own steps on both sides of what the gap inside stands for
  | pipe before inside after ih =>
    rw [Step.Context.fill, ofSteps_append, ofSteps_append, ofSteps_pipe, ih, Step.Context.before,
      Step.Context.after, ofSteps_append, ofSteps_append]
    simp only [List.append_assoc]

end Entry

namespace Step

variable {o : MatchOptions} {steps steps' : List (Step τ ρ)}

/-- What fills the gap may be exchanged for steps that are searched with the same effects. -/
private theorem search_fill {input : Value}
    (h : Entry.search o input ((Entry.ofSteps o steps).map Entry.recorded)
      = Entry.search o input ((Entry.ofSteps o steps').map Entry.recorded)) (c : Context τ ρ) :
    Entry.search o input ((Entry.ofSteps o (c.fill steps)).map Entry.recorded)
      = Entry.search o input ((Entry.ofSteps o (c.fill steps')).map Entry.recorded) := by
  rw [Entry.ofSteps_fill, Entry.ofSteps_fill, List.map_append, List.map_append, List.map_append,
    List.map_append]
  -- what is before and after the gap is recorded alike in both
  exact Entry.search_exchange o input h _ _

/-- On one input, programs run alike if what fills the gap is searched with the same effects. -/
theorem runsAlikeOn_fill {input : Value}
    (h : Entry.search o input ((Entry.ofSteps o steps).map Entry.recorded)
      = Entry.search o input ((Entry.ofSteps o steps').map Entry.recorded)) (c : Context τ ρ) :
    RunsAlikeOn o input (c.fill steps) (c.fill steps') :=
  runsAlikeOn_of_search (search_fill h c)

/-- So they do on every input, if this is so of every input. -/
theorem runsAlike_fill
    (h : ∀ input, Entry.search o input ((Entry.ofSteps o steps).map Entry.recorded)
      = Entry.search o input ((Entry.ofSteps o steps').map Entry.recorded)) (c : Context τ ρ) :
    RunsAlike o (c.fill steps) (c.fill steps') :=
  runsAlike_of_search fun input => search_fill (h input) c

end Step

end Casewise
