import Casewise.Traced

/-!
# The algebra of predicates

A predicate is a Boolean test that may leave a trace. The connectives are written so that the trace
tells which operands were evaluated: all of them start on the left, and all but `xor` and `eqv` stop
as soon as the answer is known.

* `Predicate.and`, `Predicate.or`, `Predicate.implies`, `Predicate.nor`, `Predicate.nand` — stop at
  the first operand that decides.
* `Predicate.xor`, `Predicate.eqv` — evaluate both operands.
* `Predicate.some`, `Predicate.every` — disjunction and conjunction of a list.
* `~~~p`, `p &&& q`, `p ||| q`, `p ^^^ q` — operators for four of the connectives.
* `Predicate.mapInput` — a predicate asked about an image of its input.
-/

namespace Casewise

/-- A test of `α` that emits events of type `ε`. -/
structure Predicate (ε α : Type) where
  test : α → Traced ε Bool

namespace Predicate

variable {ε α β : Type}

/-- A predicate is known by its tests. -/
theorem ext_test {p q : Predicate ε α} (h : ∀ a, p.test a = q.test a) : p = q :=
  congrArg Predicate.mk (funext h)

/-- A test without trace. -/
def ofBool (f : α → Bool) : Predicate ε α := ⟨fun a => pure (f a)⟩

/-- Holds of everything. -/
def always : Predicate ε α := ofBool fun _ => true

/-- Holds of nothing. -/
def never : Predicate ε α := ofBool fun _ => false

/-- Asks `p` about `f a` for the input `a`. -/
def mapInput (p : Predicate ε β) (f : α → β) : Predicate ε α := ⟨fun a => p.test (f a)⟩

/-- The opposite answer, with the trace of the answer. -/
def not (p : Predicate ε α) : Predicate ε α := ⟨fun a => do return !(← p.test a)⟩

/-- Asks `q` only if `p` holds. -/
def and (p q : Predicate ε α) : Predicate ε α :=
  ⟨fun a => do if ← p.test a then q.test a else return false⟩

/-- Asks `q` only if `p` fails. -/
def or (p q : Predicate ε α) : Predicate ε α :=
  ⟨fun a => do if ← p.test a then return true else q.test a⟩

/-- Exactly one holds; both are asked. -/
def xor (p q : Predicate ε α) : Predicate ε α :=
  ⟨fun a => do
    let b ← p.test a
    let c ← q.test a
    return b != c⟩

/-- Both hold or both fail; both are asked. -/
def eqv (p q : Predicate ε α) : Predicate ε α :=
  ⟨fun a => do
    let b ← p.test a
    let c ← q.test a
    return b == c⟩

/-- Asks `q` only if `p` holds. -/
def implies (p q : Predicate ε α) : Predicate ε α :=
  ⟨fun a => do if ← p.test a then q.test a else return true⟩

/-- Neither holds. It stops where the disjunction does that it negates. -/
def nor (p q : Predicate ε α) : Predicate ε α := (p.or q).not

/-- Not both hold. It stops where the conjunction does that it negates. -/
def nand (p q : Predicate ε α) : Predicate ε α := (p.and q).not

/-- Some of the predicates holds; those behind the first that does are not asked. -/
def some (ps : List (Predicate ε α)) : Predicate ε α :=
  ⟨fun a => Traced.any (fun p => p.test a) ps⟩

/-- Every one of the predicates holds; those behind the first that fails are not asked. -/
def every (ps : List (Predicate ε α)) : Predicate ε α :=
  ⟨fun a => Traced.all (fun p => p.test a) ps⟩

instance : Complement (Predicate ε α) := ⟨not⟩

instance : AndOp (Predicate ε α) := ⟨and⟩

instance : OrOp (Predicate ε α) := ⟨or⟩

instance : XorOp (Predicate ε α) := ⟨xor⟩

end Predicate

end Casewise
