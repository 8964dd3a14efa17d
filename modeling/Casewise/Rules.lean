import Casewise.Matcher
import Casewise.Spec

/-!
# Rule sets

A rule set is a matcher written down as data: rules in order, each a declared pattern with the JSON
data that it yields, and what to yield if no rule applies.

* `RuleSet.compile` — the rule set as a matcher.
* `CompiledRules.run` — what the rules yield for an input: the data of the first rule that applies,
  else the fallback, else a failure.
-/

namespace Casewise

/-- What to yield for the inputs of a declared pattern. -/
structure Rule where
  condition : PatternSpec
  result : Json

/-- Rules in order, under common options, with an optional fallback. -/
structure RuleSet where
  options : MatchOptions := {}
  rules : List Rule := []
  otherwise : Option Json := none

/-- A rule set ready to be applied. -/
structure CompiledRules (τ : Type) where
  matcher : Matcher τ Json
  otherwise : Option Json

namespace RuleSet

variable {τ : Type}

/-- The builder with one clause for each rule. -/
def builder (r : RuleSet) : MatcherBuilder τ Json :=
  r.rules.foldl
    (fun b rule => Id.run (Cases.when b rule.condition.toPattern fun _ => return rule.result))
    (.withOptions r.options)

/-- The rules as an optional matcher, the fallback beside it. -/
def compile (r : RuleSet) : Traced (Event τ) (CompiledRules τ) := do
  let matcher ← r.builder.finish .optional
  Traced.emit (.report (.rulesCompiled r.rules.length r.otherwise.isSome))
  return ⟨matcher, r.otherwise⟩

end RuleSet

namespace CompiledRules

variable {τ : Type}

/-- The data of the first rule that applies, else the fallback, else a failure. -/
def run (c : CompiledRules τ) (input : Value) : Traced (Event τ) (Except MatchError Json) := do
  match (← c.matcher.run input).result?, c.otherwise with
  | some result, _ => return .ok result
  | none, some fallback => return .ok fallback
  | none, none => return .error (.unmatched input.display)

def ruleCount (c : CompiledRules τ) : Nat := c.matcher.clauseCount

end CompiledRules

end Casewise
