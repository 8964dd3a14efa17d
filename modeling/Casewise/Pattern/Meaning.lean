import Casewise.Options
import Casewise.Pattern

/-!
# What a pattern means

`Pattern.meaning` reads a pattern off as a test, one equation per constructor, without any
preparation of the pattern. It fixes both the answer and the order in which guards run: lists are
visited from the left and abandoned as soon as the answer is known, a template over properties
never looks at a value that is not object-like, and a template over positions runs no guard on an
array that is too short.
-/

namespace Casewise.Pattern

variable {ε : Type}

mutual

/-- The test that a pattern stands for, under a treatment of missing properties. -/
def meaning (missing : MissingFields) : Pattern ε → Value → Traced ε Bool
  | .any, _ => pure true
  | .defined, v => pure !v.isNullish
  | .literal l, v => pure (l.strictEquals v)
  | .oneOf ls, v => pure (ls.any fun l => l.strictEquals v)
  | .guard p, v => p.test v
  | .not p, v => do return !(← meaning missing p v)
  | .allOf ps, v => meaningAll missing ps v
  | .anyOf ps, v => meaningAny missing ps v
  | .fields fs, v => if v.isObjectLike then meaningFields missing fs v else pure false
  | .elements ps, v =>
    match v.items? with
    | some items =>
      if ps.length ≤ items.length then meaningEach missing ps items else pure false
    | none => pure false

/-- Every pattern of the list, up to the first that fails. -/
def meaningAll (missing : MissingFields) : List (Pattern ε) → Value → Traced ε Bool
  | [], _ => pure true
  | p :: ps, v => do if ← meaning missing p v then meaningAll missing ps v else pure false

/-- Some pattern of the list, up to the first that holds. -/
def meaningAny (missing : MissingFields) : List (Pattern ε) → Value → Traced ε Bool
  | [], _ => pure false
  | p :: ps, v => do if ← meaning missing p v then pure true else meaningAny missing ps v

/-- Every listed property, up to the first that fails. -/
def meaningFields (missing : MissingFields) :
    List (PropertyKey × Pattern ε) → Value → Traced ε Bool
  | [], _ => pure true
  | (k, p) :: fs, v => do
    let ok ← match v.property? k, missing with
      | some w, _ => meaning missing p w
      | none, .reject => pure false
      | none, .undefined => meaning missing p .undefined
    if ok then meaningFields missing fs v else pure false

/-- Every position, up to the first that fails. -/
def meaningEach (missing : MissingFields) : List (Pattern ε) → List Value → Traced ε Bool
  | p :: ps, v :: vs => do
    if ← meaning missing p v then meaningEach missing ps vs else pure false
  | _, _ => pure true

end

end Casewise.Pattern
