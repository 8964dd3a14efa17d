import Casewise.Options
import Casewise.Pattern

/-!
# Compiled patterns

Compilation settles the treatment of missing properties once, turns a set with one literal into
that literal, cancels double negation, and flattens conjunctions inside conjunctions and
disjunctions inside disjunctions, dropping the connective around a single operand.

* `Pattern.compile` — the compiled form of a pattern.
* `CompiledPattern.accepts` — the test of a compiled pattern.
* `CompiledPattern.toPredicate` — the same as a predicate.
* `CompiledPattern.inspect` — the structure, spelled out.
-/

namespace Casewise

/-- A pattern prepared for matching. -/
inductive CompiledPattern (ε : Type) where
  | any
  | defined
  | literal (l : Literal)
  | oneOf (ls : List Literal)
  | guard (p : Predicate ε Value)
  | not (p : CompiledPattern ε)
  | allOf (ps : List (CompiledPattern ε))
  | anyOf (ps : List (CompiledPattern ε))
  | fields (fs : List (PropertyKey × CompiledPattern ε)) (missing : MissingFields)
  | elements (ps : List (CompiledPattern ε))

namespace CompiledPattern

variable {ε : Type}

/-- The literal itself for a set of one. -/
def ofLiterals : List Literal → CompiledPattern ε
  | [l] => .literal l
  | ls => .oneOf ls

/-- Negation, without a negation below it. -/
def negation : CompiledPattern ε → CompiledPattern ε
  | .not p => p
  | p => .not p

/-- The operands of a conjunction; any other pattern is its own only operand. -/
def conjuncts : CompiledPattern ε → List (CompiledPattern ε)
  | .allOf ps => ps
  | p => [p]

/-- The operands of a disjunction; any other pattern is its own only operand. -/
def disjuncts : CompiledPattern ε → List (CompiledPattern ε)
  | .anyOf ps => ps
  | p => [p]

/-- The conjunction of these patterns, flattened. -/
def conjunction (ps : List (CompiledPattern ε)) : CompiledPattern ε :=
  match ps.flatMap conjuncts with
  | [p] => p
  | qs => .allOf qs

/-- The disjunction of these patterns, flattened. -/
def disjunction (ps : List (CompiledPattern ε)) : CompiledPattern ε :=
  match ps.flatMap disjuncts with
  | [p] => p
  | qs => .anyOf qs

mutual

/-- The test of a compiled pattern. Lists are visited from the left and abandoned as soon as the
answer is known. -/
def accepts : CompiledPattern ε → Value → Traced ε Bool
  | .any, _ => pure true
  | .defined, v => pure !v.isNullish
  | .literal l, v => pure (l.strictEquals v)
  | .oneOf ls, v => pure (ls.any fun l => l.strictEquals v)
  | .guard p, v => p.test v
  | .not p, v => do return !(← p.accepts v)
  | .allOf ps, v => acceptsAll ps v
  | .anyOf ps, v => acceptsAny ps v
  | .fields fs missing, v => if v.isObjectLike then acceptsFields missing fs v else pure false
  | .elements ps, v =>
    match v.items? with
    | some items => if ps.length ≤ items.length then acceptsEach ps items else pure false
    | none => pure false

/-- The operands of a conjunction, asked from the left up to the first that rejects. -/
def acceptsAll : List (CompiledPattern ε) → Value → Traced ε Bool
  | [], _ => pure true
  | p :: ps, v => do if ← p.accepts v then acceptsAll ps v else pure false

/-- The operands of a disjunction, asked from the left up to the first that accepts. -/
def acceptsAny : List (CompiledPattern ε) → Value → Traced ε Bool
  | [], _ => pure false
  | p :: ps, v => do if ← p.accepts v then pure true else acceptsAny ps v

/-- A property that is missing fails, or is tested as `undefined`. -/
def acceptsFields (missing : MissingFields) :
    List (PropertyKey × CompiledPattern ε) → Value → Traced ε Bool
  | [], _ => pure true
  | (k, p) :: fs, v => do
    let ok ← match v.property? k with
      | some w => p.accepts w
      | none =>
        match missing with
        | .reject => pure false
        | .undefined => p.accepts .undefined
    if ok then acceptsFields missing fs v else pure false

/-- The listed positions, asked from the first one up to the first that rejects. Items behind them
are not looked at. -/
def acceptsEach : List (CompiledPattern ε) → List Value → Traced ε Bool
  | p :: ps, v :: vs => do if ← p.accepts v then acceptsEach ps vs else pure false
  -- that there are items enough has been seen to before
  | _, _ => pure true

end

/-- A compiled pattern, used where a predicate is asked for. -/
def toPredicate (p : CompiledPattern ε) : Predicate ε Value := ⟨p.accepts⟩

mutual

/-- The structure of a compiled pattern; of a guard no more is known than that it is one. -/
def inspect : CompiledPattern ε → String
  | .any => "Any"
  | .defined => "Defined"
  | .literal l => Casewise.tagged "Literal" l.inspect
  | .oneOf ls => Casewise.tagged "OneOf" (bracketed (ls.map Literal.inspect))
  | .guard _ => "Guard(Predicate)"
  | .not p => Casewise.tagged "Not" p.inspect
  | .allOf ps => Casewise.tagged "AllOf" (bracketed (inspectEach ps))
  | .anyOf ps => Casewise.tagged "AnyOf" (bracketed (inspectEach ps))
  | .fields fs missing =>
    "Fields \x7b fields: " ++ bracketed (inspectFields fs) ++ ", missing: " ++ missing.inspect ++
      " \x7d"
  | .elements ps => Casewise.tagged "Elements" (bracketed (inspectEach ps))

/-- The structure of operands and items, one by one. -/
def inspectEach : List (CompiledPattern ε) → List String
  | [] => []
  | p :: ps => p.inspect :: inspectEach ps

/-- The structure of the fields of a template, each as a pair of its key and its pattern. -/
def inspectFields : List (PropertyKey × CompiledPattern ε) → List String
  | [] => []
  | (k, p) :: fs => ("(" ++ k.inspect ++ ", " ++ p.inspect ++ ")") :: inspectFields fs

end

end CompiledPattern

namespace Pattern

variable {ε : Type}

mutual

/-- The compiled form of a pattern under the given options. -/
def compile (o : MatchOptions) : Pattern ε → CompiledPattern ε
  | .any => .any
  | .defined => .defined
  | .literal l => .literal l
  | .oneOf ls => .ofLiterals ls
  | .guard p => .guard p
  | .not p => (compile o p).negation
  | .allOf ps => .conjunction (compileEach o ps)
  | .anyOf ps => .disjunction (compileEach o ps)
  | .fields fs => .fields (compileFields o fs) o.missingFields
  | .elements ps => .elements (compileEach o ps)

/-- Operands and items, compiled one by one. -/
def compileEach (o : MatchOptions) : List (Pattern ε) → List (CompiledPattern ε)
  | [] => []
  | p :: ps => compile o p :: compileEach o ps

/-- What a template asks of its fields, compiled under the same keys. -/
def compileFields (o : MatchOptions) :
    List (PropertyKey × Pattern ε) → List (PropertyKey × CompiledPattern ε)
  | [] => []
  | (k, p) :: fs => (k, compile o p) :: compileFields o fs

end

end Pattern

end Casewise
