import Casewise.Pattern.Compiled
import Casewise.Report

/-!
# Clauses

A clause pairs a compiled pattern with a handler. A list of clauses is searched from the front: the
first whose pattern accepts the input is reported and its handler applied, and nothing behind it is
looked at.

* `Clause.of` — a clause from a pattern.
* `Clause.firstMatch` — the search.
-/

namespace Casewise

/-- What a clause does with the input that it accepts. -/
abbrev Handler (τ ρ : Type) := Value → Traced (Event τ) ρ

/-- A compiled pattern and the handler of the inputs that it accepts. -/
structure Clause (τ ρ : Type) where
  test : CompiledPattern (Event τ)
  handler : Handler τ ρ

namespace Clause

variable {τ ρ : Type}

/-- The clause of a pattern, which is compiled under the options of the matcher. -/
def of (o : MatchOptions) (p : Pattern (Event τ)) (h : Handler τ ρ) : Clause τ ρ := ⟨p.compile o, h⟩

/-- Whether the pattern of the clause accepts the input; the handler plays no part in that. -/
def accepts (c : Clause τ ρ) (input : Value) : Traced (Event τ) Bool := c.test.accepts input

/-- The handler, applied to the input. -/
def apply (c : Clause τ ρ) (input : Value) : Traced (Event τ) ρ := c.handler input

/-- The result of the first clause that accepts `input`; `index` is the position of the first
clause of the list. -/
def firstMatch (input : Value) : Nat → List (Clause τ ρ) → Traced (Event τ) (Option ρ)
  | _, [] => return none
  | index, c :: cs => do
    if ← c.accepts input then
      Traced.emit (.report (.clauseMatched index))
      return some (← c.apply input)
    else firstMatch input (index + 1) cs

/-- How a clause shows itself: its pattern is spelled out, its handler is not. -/
def inspect (c : Clause τ ρ) : String := "Clause \x7b test: " ++ c.test.inspect ++ ", .. \x7d"

end Clause

end Casewise
