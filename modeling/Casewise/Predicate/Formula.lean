import Casewise.Predicate

/-!
# Expressions of predicates

A formula is an expression of predicates as it is written down: leaves, to be filled with
predicates, under connectives. `Formula.predicate` fills them in and combines them.

* `Formula.Connective` — the connectives of two operands, and the operators that stand for three of
  them.
* `Formula.predicate` — the combined predicate.
* `Formula.calls` — the leaves that are evaluated on an input, in order.
* `Formula.nnf` — the formula with its negations pushed down to the leaves, and `Formula.IsNormal`,
  formulas without other negations.

Pushing a negation through a connective exchanges the connective and decides for each operand
whether the negation goes on into it; `Formula.Connective.push` is the table.
-/

namespace Casewise

namespace Formula

/-- The connectives of two operands. -/
inductive Connective where
  | and
  | or
  | xor
  | eqv
  | implies
  | nor
  | nand
  /-- the operator `&&&` -/
  | ampersand
  /-- the operator `|||` -/
  | bar
  /-- the operator `^^^` -/
  | caret
deriving DecidableEq

namespace Connective

/-- The combination of two predicates. -/
def apply {ε α : Type} (c : Connective) (p q : Predicate ε α) : Predicate ε α :=
  match c with
  | .and => p.and q
  | .or => p.or q
  | .xor => p.xor q
  | .eqv => p.eqv q
  | .implies => p.implies q
  | .nor => p.nor q
  | .nand => p.nand q
  | .ampersand => p &&& q
  | .bar => p ||| q
  | .caret => p ^^^ q

/-- The truth table. -/
def truth : Connective → Bool → Bool → Bool
  | .and, b, c => b && c
  | .or, b, c => b || c
  | .xor, b, c => b != c
  | .eqv, b, c => b == c
  | .implies, b, c => !b || c
  | .nor, b, c => !(b || c)
  | .nand, b, c => !(b && c)
  | .ampersand, b, c => b && c
  | .bar, b, c => b || c
  | .caret, b, c => b != c

/-- Whether the left operand decides the answer alone. -/
def isDecidedBy (c : Connective) (left : Bool) : Bool := c.truth left true == c.truth left false

/-- What becomes of a connective when a sign is pushed through it: another connective, and a sign
for each operand. A sign is `false` for a negation. -/
structure Pushed where
  connective : Connective
  left : Bool
  right : Bool

/-- A sign pushed through a connective. Only `and`, `or`, `xor` and `eqv` remain, and a sign goes
into the operands of no `xor` or `eqv`. -/
def push : Connective → Bool → Pushed
  | .and, true | .ampersand, true | .nand, false => ⟨.and, true, true⟩
  | .or, true | .bar, true | .nor, false => ⟨.or, true, true⟩
  | .nor, true | .or, false | .bar, false => ⟨.and, false, false⟩
  | .nand, true | .and, false | .ampersand, false => ⟨.or, false, false⟩
  | .implies, true => ⟨.or, false, true⟩
  | .implies, false => ⟨.and, true, false⟩
  | .xor, true | .caret, true | .eqv, false => ⟨.xor, true, true⟩
  | .eqv, true | .xor, false | .caret, false => ⟨.eqv, true, true⟩

end Connective

end Formula

/-- A finite expression of predicates, its leaves named by `ι`. -/
inductive Formula (ι : Type) where
  | leaf (i : ι)
  | always
  | never
  | not (f : Formula ι)
  /-- the operator `~~~` -/
  | complement (f : Formula ι)
  | binary (c : Formula.Connective) (f g : Formula ι)
  | some (fs : List (Formula ι))
  | every (fs : List (Formula ι))

namespace Formula

variable {ι ε α : Type}

mutual

/-- The predicate that the formula is an expression of, once its leaves are filled in. -/
def predicate (leaves : ι → Predicate ε α) : Formula ι → Predicate ε α
  | .leaf i => leaves i
  | .always => .always
  | .never => .never
  | .not f => (predicate leaves f).not
  | .complement f => ~~~predicate leaves f
  | .binary c f g => c.apply (predicate leaves f) (predicate leaves g)
  | .some fs => .some (predicateEach leaves fs)
  | .every fs => .every (predicateEach leaves fs)
termination_by structural f => f

/-- The predicates of operands, in their order. -/
def predicateEach (leaves : ι → Predicate ε α) : List (Formula ι) → List (Predicate ε α)
  | [] => []
  | f :: fs => predicate leaves f :: predicateEach leaves fs
termination_by structural fs => fs

end

/-- The leaves that are evaluated on an input, one by one. -/
def calls (leaves : ι → Predicate ε α) (f : Formula ι) (a : α) : List ι :=
  -- each leaf gives its answer and leaves its name instead of its own events
  ((f.predicate fun i => ⟨fun a => ⟨((leaves i).test a).value, [i]⟩⟩).test a).events

mutual

/-- The formula, or its negation if the sign is `false`, with no negation above a connective. -/
def pushed : Formula ι → Bool → Formula ι
  | .leaf i, sign => if sign then .leaf i else .not (.leaf i)
  | .always, sign => if sign then .always else .never
  | .never, sign => if sign then .never else .always
  | .not f, sign => pushed f !sign
  | .complement f, sign => pushed f !sign
  | .binary c f g, sign =>
    .binary (c.push sign).connective (pushed f (c.push sign).left) (pushed g (c.push sign).right)
  | .some fs, sign => if sign then .some (pushedEach fs true) else .every (pushedEach fs false)
  | .every fs, sign => if sign then .every (pushedEach fs true) else .some (pushedEach fs false)
termination_by structural f => f

/-- The normal forms of operands under one sign. -/
def pushedEach : List (Formula ι) → Bool → List (Formula ι)
  | [], _ => []
  | f :: fs, sign => pushed f sign :: pushedEach fs sign
termination_by structural fs => fs

end

/-- The formula with its negations pushed down to the leaves. -/
def nnf (f : Formula ι) : Formula ι := f.pushed true

example :
    (not (binary .implies (some [leaf 0, complement (leaf 1)]) (binary .xor (leaf 0) (leaf 2)))).nnf
      = binary .and (some [leaf 0, not (leaf 1)]) (binary .eqv (leaf 0) (leaf 2)) := rfl

/-- Formulas in which nothing but a leaf is negated. -/
inductive IsNormal : Formula ι → Prop
  | leaf (i : ι) : IsNormal (.leaf i)
  | negatedLeaf (i : ι) : IsNormal (.not (.leaf i))
  | always : IsNormal .always
  | never : IsNormal .never
  | binary {c : Connective} {f g : Formula ι} (hc : c ∈ [.and, .or, .xor, .eqv])
    (hf : IsNormal f) (hg : IsNormal g) : IsNormal (.binary c f g)
  | some {fs : List (Formula ι)} (hfs : ∀ f ∈ fs, IsNormal f) : IsNormal (.some fs)
  | every {fs : List (Formula ι)} (hfs : ∀ f ∈ fs, IsNormal f) : IsNormal (.every fs)

/-- Operands become predicates one by one. -/
theorem predicateEach_eq_map (leaves : ι → Predicate ε α) (fs : List (Formula ι)) :
    predicateEach leaves fs = fs.map (predicate leaves) := by
  induction fs with
  | nil => rfl
  | cons f fs ih => rw [predicateEach, ih, List.map_cons]

/-- Negations are pushed into operands one by one. -/
theorem pushedEach_eq_map (fs : List (Formula ι)) (sign : Bool) :
    pushedEach fs sign = fs.map fun f => f.pushed sign := by
  induction fs with
  | nil => rfl
  | cons f fs ih => rw [pushedEach, ih, List.map_cons]

end Formula

end Casewise
