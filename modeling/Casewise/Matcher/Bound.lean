import Casewise.Cases
import Casewise.Terminal

/-!
# Matchers bound to one input

A `BoundMatcher` has its input from the start and settles as soon as a clause that accepts it is
registered. Clauses registered after that are counted and otherwise ignored: their patterns are
neither compiled nor tested.

* `BoundMatcher.finish` — the outcome under a terminal; `BoundMatcher.finish_eq` — it is the one of
  `Terminal.finish`.
* `BoundMatcher.dispatchTags` — dispatch of one value on the tag field.
-/

namespace Casewise

/-- An input, the result of the clause that accepted it, and the number of clauses registered. -/
structure BoundMatcher (τ ρ : Type) where
  input : Value
  result? : Option ρ
  clauses : Nat
  options : MatchOptions

namespace BoundMatcher

variable {τ ρ : Type}

/-- No clauses yet, and no result. -/
def withOptions (input : Value) (o : MatchOptions) : BoundMatcher τ ρ := ⟨input, none, 0, o⟩

/-- A clause has accepted the input. -/
def isMatched (b : BoundMatcher τ ρ) : Bool := b.result?.isSome

/-- The clause is tried on the input unless an earlier one has accepted it. -/
def register (b : BoundMatcher τ ρ) (p : Pattern (Event τ)) (h : Handler τ ρ) :
    Traced (Event τ) (BoundMatcher τ ρ) := do
  let counted := { b with clauses := b.clauses + 1 }
  match b.result? with
  -- settled: the clause is counted, and neither tested nor compiled
  | some _ => return counted
  | none =>
    let clause := Clause.of b.options p h
    if ← clause.accepts b.input then
      Traced.emit (.report (.clauseMatched b.clauses))
      let r ← clause.apply b.input
      return { counted with result? := some r }
    else return counted

instance : Cases (Traced (Event τ)) (BoundMatcher τ ρ) τ ρ where
  options b := b.options
  addClause := register

/-- The outcome under a terminal. Whether the fallback is needed is read off the matcher; the other
terminals are handed the input and the result. -/
def finish (b : BoundMatcher τ ρ) (t : Terminal τ ρ) : Traced (Event τ) (Outcome ρ) :=
  match t with
  | .orElse fallback =>
    match b.result? with
    | some r => return .value r
    | none => return .value (← fallback b.input)
  | t => t.finish b.input b.result?

/-- Under all terminals alike, a fallback included, the outcome is the one that the terminal has for
the input and the result. -/
theorem finish_eq (b : BoundMatcher τ ρ) (t : Terminal τ ρ) :
    b.finish t = t.finish b.input b.result? := by
  cases t with
  | orElse fallback =>
    obtain ⟨input, result?, clauses, options⟩ := b
    cases result? with
    | some r => rfl
    | none => rfl
  | _ => rfl

/-- Dispatch of one value on the default tag field; an unlisted tag is a failure. -/
def dispatchTags (input : Value) (entries : List (Literal × Handler τ ρ)) :
    Traced (Event τ) (Outcome ρ) := do
  let start : BoundMatcher τ ρ := .withOptions input {}
  let b ← Cases.tags start entries
  b.finish .exhaustive

/-- How a matcher shows itself that has its input: the input, whether it is settled, and the number
of its clauses. -/
def inspect (b : BoundMatcher τ ρ) : String :=
  "ValueMatcher \x7b input: " ++ b.input.inspect ++ ", matched: " ++
    (if b.isMatched then "true" else "false") ++ ", clauses: " ++ toString b.clauses ++ " \x7d"

end BoundMatcher

end Casewise
