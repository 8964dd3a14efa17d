import Casewise.Clause

/-!
# Registering clauses

Clauses are registered one after the other on a builder. Whatever a builder does with a clause, the
vocabulary is the same and reduces to one operation.

* `Cases` — a builder: its options and the registration of one clause.
* `Cases.when` and the functions after it — the vocabulary.
* `Step`, `Step.run`, `Step.runAll` — the same as data, and its execution on a builder.
-/

namespace Casewise

/-- A builder `β` of clauses that acts in `m`. -/
class Cases (m : Type → Type) (β : Type) (τ ρ : outParam Type) where
  options : β → MatchOptions
  /-- Registers the clause with this pattern and handler. -/
  addClause : β → Pattern (Event τ) → Handler τ ρ → m β

namespace Cases

variable {m : Type → Type} [Monad m] {β τ ρ : Type} [Cases m β τ ρ]

def when (b : β) (p : Pattern (Event τ)) (h : Handler τ ρ) : m β := addClause b p h

/-- One clause that fires if any of the patterns matches. -/
def whenOr (b : β) (ps : List (Pattern (Event τ))) (h : Handler τ ρ) : m β :=
  addClause b (.anyOf ps) h

/-- One clause that fires if all of the patterns match. -/
def whenAnd (b : β) (ps : List (Pattern (Event τ))) (h : Handler τ ρ) : m β :=
  addClause b (.allOf ps) h

/-- One clause that fires if the pattern does not match. -/
def whenNot (b : β) (p : Pattern (Event τ)) (h : Handler τ ρ) : m β := addClause b (.not p) h

/-- One clause that fires if the property `field` strictly equals one of `tags`. -/
def discriminator (b : β) (field : String) (tags : List Literal) (h : Handler τ ρ) : m β :=
  addClause b (.tagged field tags) h

/-- One clause that fires if the property `field` is a string that opens with `start`. -/
def discriminatorStartsWith (b : β) (field start : String) (h : Handler τ ρ) : m β :=
  addClause b (.taggedWithStart field start) h

/-- One clause for each entry, in order, that fires if `field` strictly equals the tag. -/
def discriminators (b : β) (field : String) : List (Literal × Handler τ ρ) → m β
  | [] => return b
  | (tag, h) :: entries => do discriminators (← addClause b (.tagged field [tag]) h) field entries

/-- A discriminator on the tag field of the options. -/
def tag (b : β) (l : Literal) (h : Handler τ ρ) : m β :=
  discriminator b (options m b).tagField [l] h

/-- Discriminators on the tag field of the options. -/
def tags (b : β) (entries : List (Literal × Handler τ ρ)) : m β :=
  discriminators b (options m b).tagField entries

/-- Fixes the type of results and does nothing. -/
def withReturnType (b : β) : m β := return b

end Cases

/-- One word of the vocabulary, with its arguments. -/
inductive Step (τ ρ : Type) where
  | when (p : Pattern (Event τ)) (h : Handler τ ρ)
  | whenOr (ps : List (Pattern (Event τ))) (h : Handler τ ρ)
  | whenAnd (ps : List (Pattern (Event τ))) (h : Handler τ ρ)
  | whenNot (p : Pattern (Event τ)) (h : Handler τ ρ)
  | discriminator (field : String) (tags : List Literal) (h : Handler τ ρ)
  | discriminatorStartsWith (field start : String) (h : Handler τ ρ)
  | discriminators (field : String) (entries : List (Literal × Handler τ ρ))
  | tag (l : Literal) (h : Handler τ ρ)
  | tags (entries : List (Literal × Handler τ ρ))
  | withReturnType
  /-- steps grouped into one -/
  | pipe (steps : List (Step τ ρ))

namespace Step

variable {m : Type → Type} [Monad m] {β τ ρ : Type} [Cases m β τ ρ]

mutual

/-- The step performed on a builder. -/
def run : Step τ ρ → β → m β
  | .when p h, b => Cases.when b p h
  | .whenOr ps h, b => Cases.whenOr b ps h
  | .whenAnd ps h, b => Cases.whenAnd b ps h
  | .whenNot p h, b => Cases.whenNot b p h
  | .discriminator field ls h, b => Cases.discriminator b field ls h
  | .discriminatorStartsWith field start h, b => Cases.discriminatorStartsWith b field start h
  | .discriminators field entries, b => Cases.discriminators b field entries
  | .tag l h, b => Cases.tag b l h
  | .tags entries, b => Cases.tags b entries
  | .withReturnType, b => Cases.withReturnType b
  | .pipe steps, b => runAll steps b

/-- The steps performed in turn. -/
def runAll : List (Step τ ρ) → β → m β
  | [], b => return b
  | s :: steps, b => do runAll steps (← s.run b)

end

end Step

end Casewise
