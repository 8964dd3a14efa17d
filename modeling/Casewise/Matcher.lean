import Casewise.Cases
import Casewise.Terminal

/-!
# Matchers built ahead of their inputs

Clauses are collected by a `MatcherBuilder` and frozen into a `Matcher`, which can be applied to
any number of inputs and keeps nothing between them.

* `MatcherBuilder.finish` — closes the list of clauses with a terminal, and reports it.
* `MatcherBuilder.tagsExhaustive`, `MatcherBuilder.discriminatorsExhaustive` — a last mapping and
  the exhaustive terminal in one.
* `Matcher.run` — the outcome for one input.
* `Matcher.ofTags` — a dispatcher on the tag field.
-/

namespace Casewise

/-- The clauses registered so far, under fixed options. -/
structure MatcherBuilder (τ ρ : Type) where
  clauses : List (Clause τ ρ)
  options : MatchOptions

/-- A frozen list of clauses with a terminal. -/
structure Matcher (τ ρ : Type) where
  clauses : List (Clause τ ρ)
  terminal : Terminal τ ρ

namespace MatcherBuilder

variable {τ ρ : Type}

/-- No clauses yet. -/
def withOptions (o : MatchOptions) : MatcherBuilder τ ρ := ⟨[], o⟩

/-- A clause is compiled and put behind the others. -/
instance : Cases Id (MatcherBuilder τ ρ) τ ρ where
  options b := b.options
  addClause b p h := { b with clauses := b.clauses ++ [Clause.of b.options p h] }

/-- The list of clauses is closed and the terminal fixed. This is reported, with the number of
clauses and the name of the terminal. -/
def finish (b : MatcherBuilder τ ρ) (t : Terminal τ ρ) : Traced (Event τ) (Matcher τ ρ) := do
  Traced.emit (.report (.finalized b.clauses.length t.name))
  return ⟨b.clauses, t⟩

/-- One clause for every entry, by the tag in the given field, and the exhaustive terminal. -/
def discriminatorsExhaustive (b : MatcherBuilder τ ρ) (field : String)
    (entries : List (Literal × Handler τ ρ)) : Traced (Event τ) (Matcher τ ρ) :=
  finish (Id.run (Cases.discriminators b field entries)) .exhaustive

/-- One clause for every entry, by the tag in the field that the options name, and the exhaustive
terminal. -/
def tagsExhaustive (b : MatcherBuilder τ ρ) (entries : List (Literal × Handler τ ρ)) :
    Traced (Event τ) (Matcher τ ρ) :=
  finish (Id.run (Cases.tags b entries)) .exhaustive

/-- How a builder shows itself: the number of its clauses, and its options. -/
def inspect (b : MatcherBuilder τ ρ) : String :=
  "TypeMatcher \x7b clauses: " ++ toString b.clauses.length ++ ", options: " ++ b.options.inspect ++
    " \x7d"

end MatcherBuilder

namespace Matcher

variable {τ ρ : Type}

/-- The first clause that accepts the input, then the terminal. -/
def run (m : Matcher τ ρ) (input : Value) : Traced (Event τ) (Outcome ρ) := do
  m.terminal.finish input (← Clause.firstMatch input 0 m.clauses)

/-- The number of clauses, which is what the report at the end of building says. -/
def clauseCount (m : Matcher τ ρ) : Nat := m.clauses.length

/-- Dispatch on the default tag field; an unlisted tag is a failure. -/
def ofTags (entries : List (Literal × Handler τ ρ)) : Traced (Event τ) (Matcher τ ρ) :=
  MatcherBuilder.tagsExhaustive (.withOptions {}) entries

/-- How a matcher shows itself: the number of its clauses, and its terminal. -/
def inspect (m : Matcher τ ρ) : String :=
  "Matcher \x7b clauses: " ++ toString m.clauses.length ++ ", terminal: " ++ m.terminal.inspect ++
    " \x7d"

end Matcher

end Casewise
