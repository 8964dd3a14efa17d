import Casewise.Proofs.Compilation
import Casewise.Proofs.NestedInduction

/-!
# De Morgan's laws with effects

Negations can be pushed through an expression of predicates down to its leaves, and not only does
the answer stay the same: the same leaves are evaluated in the same order.

The reason is one law about all connectives of two operands (`Predicate.test_apply`): the left
operand is evaluated, and then the right one exactly if the answer still depends on it. So whatever
has the right truth table has the right effects, and that the tables are right is a matter of
finitely many cases (`Formula.Connective.truth_push`, `Formula.Connective.isDecidedBy_push`). For
lists of operands the laws are shown by induction over the list. The induction over expressions then
treats an expression and its negation together, since a negation exchanges the two.

* `Predicate.signed_apply`, `Predicate.not_some`, `Predicate.not_every` — the laws;
* `Predicate.test_some`, `Predicate.test_every` — the operands of a list are evaluated from the
  left, up to the first one that decides;
* `Formula.predicate_pushed`, `Formula.isNormal_pushed` — expressions, whole or negated;
* `Formula.nnf_evaluates_alike` — all of it in one statement.
-/

namespace Casewise

variable {ι δ ε α : Type}

open Formula (Connective)

/-! ### Two operands -/

namespace Predicate

/-- A negation evaluates its operand and turns the answer around. -/
theorem test_not (p : Predicate ε α) (a : α) :
    p.not.test a = ⟨!(p.test a).value, (p.test a).events⟩ :=
  Traced.ext rfl (List.append_nil _)

/-- A conjunction evaluates its right operand if the left one holds. -/
theorem test_and (p q : Predicate ε α) (a : α) :
    (p.and q).test a = if (p.test a).value
      then ⟨(q.test a).value, (p.test a).events ++ (q.test a).events⟩
      else ⟨false, (p.test a).events⟩ := by
  cases h : (p.test a).value with
  | true => exact Traced.ext (by simp [and, h]) (by simp [and, h])
  | false => exact Traced.ext (by simp [and, h]) (by simp [and, h])

/-- A disjunction evaluates its right operand if the left one fails. -/
theorem test_or (p q : Predicate ε α) (a : α) :
    (p.or q).test a = if (p.test a).value
      then ⟨true, (p.test a).events⟩
      else ⟨(q.test a).value, (p.test a).events ++ (q.test a).events⟩ := by
  cases h : (p.test a).value with
  | true => exact Traced.ext (by simp [or, h]) (by simp [or, h])
  | false => exact Traced.ext (by simp [or, h]) (by simp [or, h])

/-- An exclusive disjunction always evaluates both. -/
theorem test_xor (p q : Predicate ε α) (a : α) :
    (p.xor q).test a
      = ⟨(p.test a).value != (q.test a).value, (p.test a).events ++ (q.test a).events⟩ :=
  Traced.ext rfl (congrArg ((p.test a).events ++ ·) (List.append_nil _))

/-- So does an equivalence. -/
theorem test_eqv (p q : Predicate ε α) (a : α) :
    (p.eqv q).test a
      = ⟨(p.test a).value == (q.test a).value, (p.test a).events ++ (q.test a).events⟩ :=
  Traced.ext rfl (congrArg ((p.test a).events ++ ·) (List.append_nil _))

/-- An implication is a disjunction with its left operand negated. -/
theorem implies_eq_or (p q : Predicate ε α) : p.implies q = p.not.or q := by
  refine ext_test fun a => ?_
  rw [test_or, test_not]
  cases h : (p.test a).value with
  | true => exact Traced.ext (by simp [implies, h]) (by simp [implies, h])
  | false => exact Traced.ext (by simp [implies, h]) (by simp [implies, h])

/-- **The right operand is evaluated after the left one, unless that one decides the answer.** -/
theorem test_apply (c : Connective) (p q : Predicate ε α) (a : α) :
    (c.apply p q).test a
      = ⟨c.truth (p.test a).value (q.test a).value, (p.test a).events ++
          if c.isDecidedBy (p.test a).value then [] else (q.test a).events⟩ := by
  -- the laws of the operands themselves, with the question who decides made explicit
  have hand : (p.and q).test a
      = ⟨(p.test a).value && (q.test a).value, (p.test a).events ++
          if Connective.and.isDecidedBy (p.test a).value then [] else (q.test a).events⟩ := by
    rw [test_and]
    cases (p.test a).value <;> simp [Connective.isDecidedBy, Connective.truth]
  have hor : (p.or q).test a
      = ⟨(p.test a).value || (q.test a).value, (p.test a).events ++
          if Connective.or.isDecidedBy (p.test a).value then [] else (q.test a).events⟩ := by
    rw [test_or]
    cases (p.test a).value <;> simp [Connective.isDecidedBy, Connective.truth]
  have hxor : (p.xor q).test a
      = ⟨(p.test a).value != (q.test a).value, (p.test a).events ++
          if Connective.xor.isDecidedBy (p.test a).value then [] else (q.test a).events⟩ := by
    rw [test_xor]
    cases (p.test a).value <;> simp [Connective.isDecidedBy, Connective.truth]
  cases c with
  | and => exact hand
  | or => exact hor
  | xor => exact hxor
  | eqv =>
    rw [Connective.apply, test_eqv]
    cases (p.test a).value <;> simp [Connective.isDecidedBy, Connective.truth]
  -- the rest are put together from these, with a negation inside or outside
  | implies =>
    rw [Connective.apply, implies_eq_or, test_or, test_not]
    cases (p.test a).value <;> simp [Connective.isDecidedBy, Connective.truth]
  | nor =>
    rw [Connective.apply, nor, test_not, test_or]
    cases (p.test a).value <;> simp [Connective.isDecidedBy, Connective.truth]
  | nand =>
    rw [Connective.apply, nand, test_not, test_and]
    cases (p.test a).value <;> simp [Connective.isDecidedBy, Connective.truth]
  -- the operators are the connectives that they stand for
  | ampersand => exact hand
  | bar => exact hor
  | caret => exact hxor

/-- The predicate, or its negation if the sign is `false`. -/
def signed (sign : Bool) (p : Predicate ε α) : Predicate ε α := if sign then p else p.not

/-- A sign changes the answer only. -/
theorem test_signed (sign : Bool) (p : Predicate ε α) (a : α) :
    (p.signed sign).test a = ⟨(p.test a).value == sign, (p.test a).events⟩ := by
  cases sign with
  | true => exact Traced.ext (by simp [signed]) rfl
  | false =>
    rw [signed, if_neg Bool.false_ne_true, test_not]
    exact Traced.ext (by simp) rfl

/-- A negation below a sign is the other sign. -/
theorem signed_not (sign : Bool) (p : Predicate ε α) : p.not.signed sign = p.signed !sign := by
  refine ext_test fun a => ?_
  rw [test_signed, test_signed, test_not]
  cases sign <;> simp

end Predicate

namespace Formula.Connective

/-- The truth table of a connective with a sign in front is that of the connective which the sign is
pushed through, with the signs of its operands. -/
theorem truth_push (c : Connective) (sign b d : Bool) :
    (c.truth b d == sign)
      = (c.push sign).connective.truth (b == (c.push sign).left) (d == (c.push sign).right) := by
  cases c <;> cases sign <;> cases b <;> cases d <;> rfl

/-- The left operand decides before as after. -/
theorem isDecidedBy_push (c : Connective) (sign b : Bool) :
    c.isDecidedBy b = (c.push sign).connective.isDecidedBy (b == (c.push sign).left) := by
  cases c <;> cases sign <;> cases b <;> rfl

end Formula.Connective

namespace Predicate

/-- **De Morgan's laws for two operands.** -/
theorem signed_apply (c : Connective) (sign : Bool) (p q : Predicate ε α) :
    (c.apply p q).signed sign
      = (c.push sign).connective.apply (p.signed (c.push sign).left)
          (q.signed (c.push sign).right) := by
  refine ext_test fun a => ?_
  rw [test_signed, test_apply, test_apply, test_signed, test_signed]
  rw [← c.isDecidedBy_push sign, ← c.truth_push sign]

/-! ### Lists of operands -/

theorem some_cons (p : Predicate ε α) (ps : List (Predicate ε α)) :
    Predicate.some (p :: ps) = p.or (Predicate.some ps) := rfl

theorem every_cons (p : Predicate ε α) (ps : List (Predicate ε α)) :
    every (p :: ps) = p.and (every ps) := rfl

/-- The operands are evaluated from the left, up to the first one that holds. -/
theorem test_some (ps : List (Predicate ε α)) (a : α) :
    (Predicate.some ps).test a
      = ⟨ps.any fun p => (p.test a).value,
          (ps.take (ps.findIdx (fun p => (p.test a).value) + 1)).flatMap
            fun p => (p.test a).events⟩ := Traced.any_eq _ ps

/-- The operands are evaluated from the left, up to the first one that fails. -/
theorem test_every (ps : List (Predicate ε α)) (a : α) :
    (every ps).test a
      = ⟨ps.all fun p => (p.test a).value,
          (ps.take (ps.findIdx (fun p => !(p.test a).value) + 1)).flatMap
            fun p => (p.test a).events⟩ := Traced.all_eq _ ps

/-- **De Morgan's law for a disjunction of any number of operands.** -/
theorem not_some (ps : List (Predicate ε α)) : (Predicate.some ps).not = every (ps.map not) := by
  induction ps with
  | nil => exact ext_test fun a => rfl
  | cons p ps ih =>
    -- a disjunction of a list is one of its head with the rest
    have hor : (p.or (Predicate.some ps)).not = p.not.and (Predicate.some ps).not :=
      signed_apply .or false p (Predicate.some ps)
    rw [some_cons, hor, ih, List.map_cons, every_cons]

/-- **De Morgan's law for a conjunction of any number of operands.** -/
theorem not_every (ps : List (Predicate ε α)) :
    (every ps).not = Predicate.some (ps.map not) := by
  induction ps with
  | nil => exact ext_test fun a => rfl
  | cons p ps ih =>
    have hand : (p.and (every ps)).not = p.not.or (every ps).not :=
      signed_apply .and false p (every ps)
    rw [every_cons, hand, ih, List.map_cons, some_cons]

/-- With a sign in front, a disjunction is one of its operands, or a conjunction of their
negations. -/
theorem signed_some (sign : Bool) (ps : List (Predicate ε α)) :
    (Predicate.some ps).signed sign
      = if sign then Predicate.some (ps.map (signed true)) else every (ps.map (signed false)) := by
  cases sign with
  | true => exact congrArg Predicate.some (List.map_id ps).symm
  | false => exact not_some ps

/-- With a sign in front, a conjunction is one of its operands, or a disjunction of their
negations. -/
theorem signed_every (sign : Bool) (ps : List (Predicate ε α)) :
    (every ps).signed sign
      = if sign then every (ps.map (signed true)) else Predicate.some (ps.map (signed false)) := by
  cases sign with
  | true => exact congrArg every (List.map_id ps).symm
  | false => exact not_every ps

end Predicate

namespace Formula

/-! ### Expressions -/

/-- **Pushing a sign into an expression changes neither answers nor effects,** whatever predicates
the leaves are. -/
theorem predicate_pushed (leaves : ι → Predicate ε α) (f : Formula ι) (sign : Bool) :
    (f.pushed sign).predicate leaves = (f.predicate leaves).signed sign := by
  have hmap : ∀ fs : List (Formula ι),
      (∀ f ∈ fs, ∀ sign, (f.pushed sign).predicate leaves = (f.predicate leaves).signed sign) →
      ∀ sign, (predicateEach leaves fs).map (Predicate.signed sign)
        = predicateEach leaves (pushedEach fs sign) := by
    intro fs ih sign
    rw [predicateEach_eq_map, predicateEach_eq_map, pushedEach_eq_map, List.map_map, List.map_map]
    exact List.map_congr_left fun f hf => (ih f hf sign).symm
  -- below a negation the sign is the other one, so both are needed at once
  induction f generalizing sign with
  -- a sign at a leaf stays there
  | leaf i => cases sign <;> rfl
  | always => cases sign <;> rfl
  | never => cases sign <;> rfl
  | not f ih => rw [pushed, ih, predicate, Predicate.signed_not]
  | complement f ih =>
    rw [pushed, ih, predicate]
    exact (Predicate.signed_not sign _).symm
  -- two operands: the law for two operands, with the sign that each of them gets
  | binary c f g ihf ihg => rw [pushed, predicate, ihf, ihg, predicate, Predicate.signed_apply]
  | some fs ih =>
    rw [predicate, Predicate.signed_some, hmap fs ih, hmap fs ih, pushed]
    cases sign <;> rfl
  | every fs ih =>
    rw [predicate, Predicate.signed_every, hmap fs ih, hmap fs ih, pushed]
    cases sign <;> rfl

/-- A pushed sign stands at leaves only. -/
theorem isNormal_pushed (f : Formula ι) (sign : Bool) : (f.pushed sign).IsNormal := by
  have heach : ∀ fs : List (Formula ι), (∀ f ∈ fs, ∀ sign, (f.pushed sign).IsNormal) →
      ∀ sign, ∀ f ∈ pushedEach fs sign, f.IsNormal := by
    intro fs ih sign
    rw [pushedEach_eq_map]
    exact List.forall_mem_map.2 fun f hf => ih f hf sign
  induction f generalizing sign with
  | leaf i =>
    cases sign with
    | true => exact .leaf i
    | false => exact .negatedLeaf i
  | always =>
    cases sign with
    | true => exact .always
    | false => exact .never
  | never =>
    cases sign with
    | true => exact .never
    | false => exact .always
  | not f ih => exact ih !sign
  | complement f ih => exact ih !sign
  | binary c f g ihf ihg =>
    -- a connective that a sign has been pushed into is one of the four of normal forms
    have hc : (c.push sign).connective ∈ [.and, .or, .xor, .eqv] := by
      cases c <;> cases sign <;> decide
    exact .binary hc (ihf _) (ihg _)
  | some fs ih =>
    cases sign with
    | true => exact .some (heach fs ih true)
    | false => exact .every (heach fs ih false)
  | every fs ih =>
    cases sign with
    | true => exact .every (heach fs ih true)
    | false => exact .some (heach fs ih false)

/-- If spelling out undoes an exchange of leaves for each leaf, it does so for each expression. -/
theorem expand_predicate {leaves : ι → Predicate ε α} {leaves' : ι → Predicate δ α}
    {g : δ → List ε} {a : α} (h : ∀ i, ((leaves' i).test a).expand g = (leaves i).test a)
    (f : Formula ι) : ((f.predicate leaves').test a).expand g = (f.predicate leaves).test a := by
  -- a negation emits what its operand emits
  have hnot : ∀ {p : Predicate ε α} {p' : Predicate δ α}, (p'.test a).expand g = p.test a →
      (p'.not.test a).expand g = p.not.test a := by
    intro p p' hp
    rw [Predicate.test_not, Predicate.test_not, ← hp]
    rfl
  induction f with
  | leaf i => exact h i
  | always => rfl
  | never => rfl
  | not f ih => exact hnot ih
  | complement f ih => exact hnot ih
  | binary c f f' ih ih' =>
    have hvalue : ((f.predicate leaves').test a).value = ((f.predicate leaves).test a).value :=
      congrArg Traced.value ih
    have hvalue' : ((f'.predicate leaves').test a).value = ((f'.predicate leaves).test a).value :=
      congrArg Traced.value ih'
    rw [predicate, predicate, Predicate.test_apply, Predicate.test_apply, hvalue, hvalue']
    refine Traced.ext rfl ?_
    have hevents : ((f.predicate leaves').test a).events.flatMap g
        = ((f.predicate leaves).test a).events := congrArg Traced.events ih
    have hevents' : ((f'.predicate leaves').test a).events.flatMap g
        = ((f'.predicate leaves).test a).events := congrArg Traced.events ih'
    -- whether the right operand is evaluated does not depend on what is emitted
    dsimp only [Traced.expand]
    rw [List.flatMap_append, hevents]
    split
    · rw [List.flatMap_nil]
    · rw [hevents']
  | some fs ih =>
    rw [predicate, predicate, predicateEach_eq_map, predicateEach_eq_map]
    dsimp only [Predicate.some]
    rw [Traced.any_map, Traced.any_map, Traced.expand_any]
    exact Traced.any_congr ih
  | every fs ih =>
    rw [predicate, predicate, predicateEach_eq_map, predicateEach_eq_map]
    dsimp only [Predicate.every]
    rw [Traced.all_map, Traced.all_map, Traced.expand_all]
    exact Traced.all_congr ih

/-- An expression emits what the leaves emit that are evaluated, one after the other. -/
theorem events_predicate (leaves : ι → Predicate ε α) (f : Formula ι) (a : α) :
    ((f.predicate leaves).test a).events
      = (f.calls leaves a).flatMap fun i => ((leaves i).test a).events := by
  have hleaf : ∀ i, (⟨((leaves i).test a).value, [i]⟩ : Traced ι Bool).expand
      (fun i => ((leaves i).test a).events) = (leaves i).test a :=
    fun i => Traced.ext rfl (List.append_nil _)
  exact (congrArg Traced.events (expand_predicate hleaf f)).symm

/-! ### The laws together -/

/-- **De Morgan's laws with effects.** The negation normal form of an expression has no negations
but those of leaves. Whatever predicates the leaves are, it gives the same answer on every input,
and the same leaves are evaluated in the same order, with the same events; and nothing but their
evaluation emits events.

As to the order: a connective evaluates its left operand, and after that the right one unless the
left one decides, which it never does under `xor` and `eqv`. `some` and `every` evaluate their
operands from the left, and the first one that decides is the last one that is evaluated. -/
theorem nnf_evaluates_alike :
    (∀ f : Formula ι, f.nnf.IsNormal ∧ ∀ (leaves : ι → Predicate ε α) (a : α),
      (f.nnf.predicate leaves).test a = (f.predicate leaves).test a ∧
      f.nnf.calls leaves a = f.calls leaves a ∧
      ((f.predicate leaves).test a).events
        = (f.calls leaves a).flatMap fun i => ((leaves i).test a).events) ∧
    (∀ (c : Connective) (p q : Predicate ε α) (a : α),
      (c.apply p q).test a
        = ⟨c.truth (p.test a).value (q.test a).value, (p.test a).events ++
            if c.isDecidedBy (p.test a).value then [] else (q.test a).events⟩) ∧
    (∀ (p q : Predicate ε α) (a : α),
      ((p.xor q).test a).events = (p.test a).events ++ (q.test a).events ∧
      ((p.eqv q).test a).events = (p.test a).events ++ (q.test a).events ∧
      ((p ^^^ q).test a).events = (p.test a).events ++ (q.test a).events) ∧
    ∀ (ps : List (Predicate ε α)) (a : α),
      (Predicate.some ps).test a
        = ⟨ps.any fun p => (p.test a).value,
            (ps.take (ps.findIdx (fun p => (p.test a).value) + 1)).flatMap
              fun p => (p.test a).events⟩ ∧
      (Predicate.every ps).test a
        = ⟨ps.all fun p => (p.test a).value,
            (ps.take (ps.findIdx (fun p => !(p.test a).value) + 1)).flatMap
              fun p => (p.test a).events⟩ := by
  have hsame : ∀ {δ : Type} (leaves : ι → Predicate δ α) (f : Formula ι),
      f.nnf.predicate leaves = f.predicate leaves :=
    fun leaves f => predicate_pushed leaves f true
  refine ⟨fun f => ⟨isNormal_pushed f true, fun leaves a => ⟨?_, ?_, ?_⟩⟩,
    Predicate.test_apply, ?_, ?_⟩
  · rw [hsame]
  · rw [calls, calls, hsame]
  · exact events_predicate leaves f a
  · intro p q a
    have hxor : ((p.xor q).test a).events = (p.test a).events ++ (q.test a).events := by
      rw [Predicate.test_xor]
    have heqv : ((p.eqv q).test a).events = (p.test a).events ++ (q.test a).events := by
      rw [Predicate.test_eqv]
    exact ⟨hxor, heqv, hxor⟩
  · exact fun ps a => ⟨Predicate.test_some ps a, Predicate.test_every ps a⟩

end Formula

end Casewise
