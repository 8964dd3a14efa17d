import Casewise.Pattern.NormalForm
import Casewise.Proofs.Compilation
import Mathlib.Algebra.Order.BigOperators.Group.List
import Mathlib.Algebra.Order.Ring.Nat

/-!
# Compilation ends in a normal form

Compilation takes connectives out of a pattern from the inside to the outside, and taking one out
may bring two others together: dropping a disjunction around a single operand may put a conjunction
into a conjunction, or a negation below a negation. In the end there is none left to take out:

* `CompiledPattern.Connective` — conjunction and disjunction are flattened in the same way and are
  treated as one. What becomes of a connective has two cases (`Connective.flattened_cases`), and so
  has what a pattern contributes to one (`Connective.operands_cases`).
* `CompiledPattern.NormalForm.negation`, `CompiledPattern.NormalForm.flattened` — every rewriting
  step keeps normal forms, whatever it brings together. What is flattened into a connective are the
  operands of a normal form, which are of another kind, so one round of flattening is enough.
* `CompiledPattern.leaves_negation`, `CompiledPattern.leaves_flattened`,
  `CompiledPattern.size_flattened_le` — no step touches a leaf, and none adds a node beyond the one
  that it stands for.
* `CompiledPattern.NormalForm.compile_toPattern` — a normal form is compiled to itself.
* `Pattern.compile_normalizes` — what follows from them for `Pattern.compile`.
-/

namespace Casewise

variable {ε : Type}

/-! ### Recursion over lists, restated -/

namespace Pattern

/-- The leaves of operands are those of each, one after the other. -/
theorem leavesEach_eq_flatMap (ps : List (Pattern ε)) : leavesEach ps = ps.flatMap leaves := by
  induction ps with
  | nil => rfl
  | cons p ps ih => rw [leavesEach, ih, List.flatMap_cons]

/-- The leaves of a template are those under each key, the key in front. -/
theorem leavesFields_eq_flatMap (fs : List (PropertyKey × Pattern ε)) :
    leavesFields fs = fs.flatMap fun f => .key f.1 :: f.2.leaves := by
  induction fs with
  | nil => rfl
  | cons f fs ih => rw [leavesFields, ih, List.flatMap_cons, List.cons_append]

/-- The nodes of operands are counted together. -/
theorem sizeEach_eq_sum (ps : List (Pattern ε)) : sizeEach ps = (ps.map size).sum := by
  induction ps with
  | nil => rfl
  | cons p ps ih => rw [sizeEach, ih, List.map_cons, List.sum_cons]

/-- The nodes under the keys of a template are counted together. -/
theorem sizeFields_eq_sum (fs : List (PropertyKey × Pattern ε)) :
    sizeFields fs = (fs.map fun f => f.2.size).sum := by
  induction fs with
  | nil => rfl
  | cons f fs ih => rw [sizeFields, ih, List.map_cons, List.sum_cons]

end Pattern

namespace CompiledPattern

/-- Operands are read as patterns one by one. -/
theorem toPatternEach_eq_map (ps : List (CompiledPattern ε)) :
    toPatternEach ps = ps.map toPattern := by
  induction ps with
  | nil => rfl
  | cons p ps ih => rw [toPatternEach, ih, List.map_cons]

/-- Fields are read as patterns one by one, under their keys. -/
theorem toPatternFields_eq_map (fs : List (PropertyKey × CompiledPattern ε)) :
    toPatternFields fs = fs.map fun f => (f.1, f.2.toPattern) := by
  induction fs with
  | nil => rfl
  | cons f fs ih => rw [toPatternFields, ih, List.map_cons]

/-- A conjunction has no leaf of its own. -/
theorem leaves_allOf (ps : List (CompiledPattern ε)) : (allOf ps).leaves = ps.flatMap leaves := by
  change Pattern.leavesEach (toPatternEach ps) = _
  rw [Pattern.leavesEach_eq_flatMap, toPatternEach_eq_map, List.flatMap_map]
  rfl

/-- A disjunction has no leaf of its own; read as patterns, it and the conjunction have the same
ones. -/
theorem leaves_anyOf (ps : List (CompiledPattern ε)) : (anyOf ps).leaves = ps.flatMap leaves :=
  leaves_allOf ps

/-- A template over positions has no leaf of its own. -/
theorem leaves_elements (ps : List (CompiledPattern ε)) :
    (elements ps).leaves = ps.flatMap leaves :=
  leaves_allOf ps

/-- A template over properties has its keys for leaves. -/
theorem leaves_fields (fs : List (PropertyKey × CompiledPattern ε)) (missing : MissingFields) :
    (fields fs missing).leaves = fs.flatMap fun f => .key f.1 :: f.2.leaves := by
  change Pattern.leavesFields (toPatternFields fs) = _
  rw [Pattern.leavesFields_eq_flatMap, toPatternFields_eq_map, List.flatMap_map]
  rfl

/-- A conjunction is one node above its operands. -/
theorem size_allOf (ps : List (CompiledPattern ε)) : (allOf ps).size = 1 + (ps.map size).sum := by
  change 1 + Pattern.sizeEach (toPatternEach ps) = _
  rw [Pattern.sizeEach_eq_sum, toPatternEach_eq_map, List.map_map]
  rfl

/-- A disjunction is one node above its operands. -/
theorem size_anyOf (ps : List (CompiledPattern ε)) : (anyOf ps).size = 1 + (ps.map size).sum :=
  size_allOf ps

/-- A template over positions is one node above what it asks of the items. -/
theorem size_elements (ps : List (CompiledPattern ε)) :
    (elements ps).size = 1 + (ps.map size).sum :=
  size_allOf ps

/-- A template over properties is one node; its keys are none. -/
theorem size_fields (fs : List (PropertyKey × CompiledPattern ε)) (missing : MissingFields) :
    (fields fs missing).size = 1 + (fs.map fun f => f.2.size).sum := by
  change 1 + Pattern.sizeFields (toPatternFields fs) = _
  rw [Pattern.sizeFields_eq_sum, toPatternFields_eq_map, List.map_map]
  rfl

/-! ### Connectives -/

/-- A connective of lists of patterns. -/
inductive Connective where
  | all
  | any

namespace Connective

/-- The connective of these patterns. -/
def of : Connective → List (CompiledPattern ε) → CompiledPattern ε
  | .all => allOf
  | .any => anyOf

/-- Whether it is the connective at the root of a pattern. -/
def IsRootOf : Connective → CompiledPattern ε → Prop
  | .all => IsConjunction
  | .any => IsDisjunction

/-- What a pattern contributes to the connective as an operand of it. -/
def operands : Connective → CompiledPattern ε → List (CompiledPattern ε)
  | .all => conjuncts
  | .any => disjuncts

/-- The connective of these patterns, flattened. -/
def flattened : Connective → List (CompiledPattern ε) → CompiledPattern ε
  | .all => conjunction
  | .any => disjunction

variable (c : Connective)

/-- **What becomes of a connective.** If flattening leaves a single operand, it is that operand, and
otherwise the connective of all of them. -/
theorem flattened_cases (ps : List (CompiledPattern ε)) :
    (∃ p, ps.flatMap c.operands = [p] ∧ c.flattened ps = p) ∨
      (ps.flatMap c.operands).length ≠ 1 ∧ c.flattened ps = c.of (ps.flatMap c.operands) := by
  cases c with
  | all | any =>
    simp only [flattened, operands, of, conjunction, disjunction]
    split
    · next p hp => exact .inl ⟨p, hp, rfl⟩
    · next hne =>
      -- this branch is the one where there is not just one operand
      refine .inr ⟨fun hlength => ?_, rfl⟩
      obtain ⟨p, hp⟩ := List.length_eq_one_iff.1 hlength
      exact hne p hp

/-- A pattern contributes the operands of the connective at its root, and otherwise itself. -/
theorem operands_cases (p : CompiledPattern ε) :
    (∃ ps, p = c.of ps ∧ c.operands p = ps) ∨ ¬c.IsRootOf p ∧ c.operands p = [p] := by
  -- only the connective itself at the root opens a pattern up
  cases c with
  | all =>
    cases p with
    | allOf ps => exact .inl ⟨ps, rfl, rfl⟩
    | _ => exact .inr ⟨not_false, rfl⟩
  | any =>
    cases p with
    | anyOf ps => exact .inl ⟨ps, rfl, rfl⟩
    | _ => exact .inr ⟨not_false, rfl⟩

/-- The connective stands at the root of what it connects. -/
theorem isRootOf_of (ps : List (CompiledPattern ε)) : c.IsRootOf (c.of ps) := by
  cases c <;> trivial

/-- Operands that have other roots are not changed by flattening. -/
theorem flatMap_operands_eq_self {ps : List (CompiledPattern ε)} (h : ∀ p ∈ ps, ¬c.IsRootOf p) :
    ps.flatMap c.operands = ps := by
  -- flattening replaces a pattern by its operands, here by itself
  have hself : ∀ p ∈ ps, c.operands p = [p] := by
    intro p hp
    rcases c.operands_cases p with ⟨qs, rfl, -⟩ | ⟨-, hself⟩
    · exact absurd (c.isRootOf_of qs) (h _ hp)
    · exact hself
  rw [List.flatMap_congr hself]
  exact List.flatMap_singleton' ps

/-- A connective is in normal form if its operands are, if none has the same connective at its root,
and if there is not just one of them. -/
theorem normalForm_of_iff {missing : MissingFields} {ps : List (CompiledPattern ε)} :
    (c.of ps).NormalForm missing ↔
      ps.length ≠ 1 ∧ ∀ p ∈ ps, p.NormalForm missing ∧ ¬c.IsRootOf p := by
  cases c with
  | all => exact normalForm_allOf_iff
  | any => exact normalForm_anyOf_iff

/-- The leaves of a connective are those of its operands, in order. -/
theorem leaves_of (ps : List (CompiledPattern ε)) : (c.of ps).leaves = ps.flatMap leaves := by
  cases c with
  | all => exact leaves_allOf ps
  | any => exact leaves_anyOf ps

/-- A connective is one node above its operands. -/
theorem size_of (ps : List (CompiledPattern ε)) : (c.of ps).size = 1 + (ps.map size).sum := by
  cases c with
  | all => exact size_allOf ps
  | any => exact size_anyOf ps

end Connective

/-! ### Every step keeps normal forms -/

variable {missing : MissingFields}

/-- A set of literals is in normal form, be it kept as a set or made into a literal. -/
theorem normalForm_ofLiterals (ls : List Literal) :
    (ofLiterals ls : CompiledPattern ε).NormalForm missing := by
  match ls with
  | [] => exact normalForm_of_isLeaf trivial Nat.zero_ne_one
  | [_] => exact normalForm_of_isLeaf trivial trivial
  | _ :: _ :: _ => exact normalForm_of_isLeaf trivial (by simp [ofLiterals, NormalAtRoot])

/-- The operand of a negation in normal form is no negation, so taking one negation off leaves
none, and putting one on makes just one. -/
theorem NormalForm.negation {p : CompiledPattern ε} (h : p.NormalForm missing) :
    p.negation.NormalForm missing := by
  cases p with
  | not p => exact (normalForm_not_iff.1 h).2
  | _ => exact normalForm_not_iff.2 ⟨not_false, h⟩

/-- The operands that a normal form contributes to a connective are normal forms, and none of them
has that connective at its root. -/
theorem NormalForm.operands {p : CompiledPattern ε} (h : p.NormalForm missing) (c : Connective) :
    ∀ q ∈ c.operands p, q.NormalForm missing ∧ ¬c.IsRootOf q := by
  rcases c.operands_cases p with ⟨ps, rfl, hps⟩ | ⟨hroot, hself⟩
  -- a connective of this kind in normal form has operands of other kinds
  · rw [hps]
    exact (c.normalForm_of_iff.1 h).2
  -- anything else is its own only operand
  · rw [hself]
    exact List.forall_mem_singleton.2 ⟨h, hroot⟩

/-- **Flattening normal forms gives a normal form.** A single operand that is left may have anything
at its root but the connective, so it fits wherever the connective would have stood. -/
theorem NormalForm.flattened (c : Connective) {ps : List (CompiledPattern ε)}
    (h : ∀ p ∈ ps, p.NormalForm missing) : (c.flattened ps).NormalForm missing := by
  -- what is flattened comes from normal forms
  have hflat : ∀ q ∈ ps.flatMap c.operands, q.NormalForm missing ∧ ¬c.IsRootOf q := by
    intro q hq
    obtain ⟨p, hp, hqp⟩ := List.mem_flatMap.1 hq
    exact (h p hp).operands c q hqp
  rcases c.flattened_cases ps with ⟨q, hq, heq⟩ | ⟨hlength, heq⟩
  -- one operand is left, and it stands for the whole
  · rw [hq] at hflat
    rw [heq]
    exact (hflat q List.mem_cons_self).1
  · rw [heq]
    exact c.normalForm_of_iff.2 ⟨hlength, hflat⟩

/-! ### No step touches a leaf -/

/-- A set of literals has each of them for a leaf, a single one too. -/
theorem leaves_ofLiterals (ls : List Literal) :
    (ofLiterals ls : CompiledPattern ε).leaves = ls.map .literal := by
  match ls with
  | [] => rfl
  | [_] => rfl
  | _ :: _ :: _ => rfl

/-- Negations have no leaves, so it makes no difference whether one is taken off or put on. -/
theorem leaves_negation (p : CompiledPattern ε) : p.negation.leaves = p.leaves := by
  cases p <;> rfl

/-- What a pattern contributes to a connective has its leaves. -/
theorem leaves_operands (c : Connective) (p : CompiledPattern ε) :
    (c.operands p).flatMap leaves = p.leaves := by
  rcases c.operands_cases p with ⟨ps, rfl, hps⟩ | ⟨-, hself⟩
  · rw [hps, c.leaves_of]
  · rw [hself, List.flatMap_singleton]

/-- The leaves of an operand that is flattened stand where the operand stood. -/
theorem leaves_flattened (c : Connective) (ps : List (CompiledPattern ε)) :
    (c.flattened ps).leaves = ps.flatMap leaves := by
  -- the operands of each pattern have its leaves, in order
  have hflat : (ps.flatMap c.operands).flatMap leaves = ps.flatMap leaves := by
    rw [List.flatMap_assoc]
    exact List.flatMap_congr fun p _ => leaves_operands c p
  rcases c.flattened_cases ps with ⟨p, hp, heq⟩ | ⟨-, heq⟩
  · rw [heq, ← hflat, hp, List.flatMap_singleton]
  · rw [heq, ← hflat, c.leaves_of]

/-! ### No step adds a node -/

/-- A set of literals is one node, a single literal is one too. -/
theorem size_ofLiterals (ls : List Literal) : (ofLiterals ls : CompiledPattern ε).size = 1 := by
  match ls with
  | [] => rfl
  | [_] => rfl
  | _ :: _ :: _ => rfl

/-- Negating adds at most the node of the negation. -/
theorem size_negation_le (p : CompiledPattern ε) : p.negation.size ≤ 1 + p.size := by
  cases p with
  | not p =>
    -- two nodes less
    have hnot : p.not.size = 1 + p.size := rfl
    change p.size ≤ 1 + p.not.size
    omega
  | _ => exact Nat.le_refl _

/-- What a pattern contributes to a connective has no more nodes than the pattern. -/
theorem sum_size_operands_le (c : Connective) (p : CompiledPattern ε) :
    ((c.operands p).map size).sum ≤ p.size := by
  rcases c.operands_cases p with ⟨ps, rfl, hps⟩ | ⟨-, hself⟩
  · rw [hps, c.size_of]
    exact Nat.le_add_left _ 1
  · rw [hself]
    exact Nat.le_of_eq List.sum_singleton

/-- What is flattened has at most one node more than the operands have. -/
theorem size_flattened_le (c : Connective) (ps : List (CompiledPattern ε)) :
    (c.flattened ps).size ≤ 1 + (ps.map size).sum := by
  -- the operands of a pattern have its nodes, perhaps without its root
  have hflat : ((ps.flatMap c.operands).map size).sum ≤ (ps.map size).sum := by
    calc ((ps.flatMap c.operands).map size).sum
        = (ps.map fun p => ((c.operands p).map size).sum).sum := by
          rw [List.map_flatMap, List.flatMap_def, List.sum_flatten, List.map_map]
          rfl
      _ ≤ (ps.map size).sum := List.sum_le_sum fun p _ => sum_size_operands_le c p
  rcases c.flattened_cases ps with ⟨p, hp, heq⟩ | ⟨-, heq⟩
  · -- the single operand stands without the connective
    rw [hp, List.map_singleton, List.sum_singleton] at hflat
    rw [heq]
    omega
  · rw [heq, c.size_of]
    omega

/-! ### Normal forms are compiled to themselves -/

/-- A negation is put on whatever is not one. -/
theorem negation_of_not_isNegation {p : CompiledPattern ε} (h : ¬p.IsNegation) :
    p.negation = .not p := by
  cases p with
  | not p => exact absurd trivial h
  | _ => rfl

/-- A set that has not just one literal is kept. -/
theorem ofLiterals_of_length_ne_one {ls : List Literal} (h : ls.length ≠ 1) :
    (ofLiterals ls : CompiledPattern ε) = .oneOf ls := by
  match ls with
  | [] => rfl
  | [_] => exact absurd rfl h
  | _ :: _ :: _ => rfl

/-- There is nothing to flatten in a normal form. -/
theorem flattened_of_normal (c : Connective) {ps : List (CompiledPattern ε)}
    (hlength : ps.length ≠ 1) (h : ∀ p ∈ ps, ¬c.IsRootOf p) : c.flattened ps = c.of ps := by
  have hflat := c.flatMap_operands_eq_self h
  rcases c.flattened_cases ps with ⟨p, hp, -⟩ | ⟨-, heq⟩
  · rw [hflat] at hp
    rw [hp] at hlength
    exact absurd rfl hlength
  · rw [heq, hflat]

/-- If every member of a list is compiled to itself, so is the list. -/
theorem compileEach_toPatternEach {o : MatchOptions} {ps : List (CompiledPattern ε)}
    (h : ∀ p ∈ ps, p.toPattern.compile o = p) : Pattern.compileEach o (toPatternEach ps) = ps := by
  induction ps with
  | nil => rfl
  | cons p ps ih =>
    obtain ⟨hp, hps⟩ := List.forall_mem_cons.1 h
    rw [toPatternEach, Pattern.compileEach, hp, ih hps]

/-- If everything under the keys of a template is compiled to itself, so is the template. -/
theorem compileFields_toPatternFields {o : MatchOptions}
    {fs : List (PropertyKey × CompiledPattern ε)} (h : ∀ f ∈ fs, f.2.toPattern.compile o = f.2) :
    Pattern.compileFields o (toPatternFields fs) = fs := by
  induction fs with
  | nil => rfl
  | cons f fs ih =>
    obtain ⟨hf, hfs⟩ := List.forall_mem_cons.1 h
    rw [toPatternFields, Pattern.compileFields, hf, ih hfs]

/-- **A normal form is compiled to itself.** -/
theorem NormalForm.compile_toPattern {o : MatchOptions} {p : CompiledPattern ε}
    (h : p.NormalForm o.missingFields) : p.toPattern.compile o = p := by
  induction p with
  | any => rfl
  | defined => rfl
  | literal l => rfl
  | guard g => rfl
  | oneOf ls => exact ofLiterals_of_length_ne_one h.atRoot
  | not p ih =>
    obtain ⟨hroot, hp⟩ := normalForm_not_iff.1 h
    rw [toPattern, Pattern.compile, ih hp, negation_of_not_isNegation hroot]
  | allOf ps ih =>
    obtain ⟨hlength, hps⟩ := normalForm_allOf_iff.1 h
    -- the operands come back as they were, and there is nothing to flatten
    rw [toPattern, Pattern.compile, compileEach_toPatternEach fun p hp => ih p hp (hps p hp).1]
    exact flattened_of_normal .all hlength fun p hp => (hps p hp).2
  | anyOf ps ih =>
    obtain ⟨hlength, hps⟩ := normalForm_anyOf_iff.1 h
    rw [toPattern, Pattern.compile, compileEach_toPatternEach fun p hp => ih p hp (hps p hp).1]
    exact flattened_of_normal .any hlength fun p hp => (hps p hp).2
  | fields fs m ih =>
    -- the treatment of missing properties is lost on the way and comes back from the options
    obtain ⟨rfl, hfs⟩ := normalForm_fields_iff.1 h
    rw [toPattern, Pattern.compile, compileFields_toPatternFields fun f hf => ih f hf (hfs f hf)]
  | elements ps ih =>
    have hps := normalForm_elements_iff.1 h
    rw [toPattern, Pattern.compile, compileEach_toPatternEach fun p hp => ih p hp (hps p hp)]

end CompiledPattern

/-! ### The compiled form of a pattern -/

namespace Pattern

open CompiledPattern

/-- What compilation makes of any pattern is in normal form: every constructor is compiled by a step
that keeps normal forms. -/
theorem normalForm_compile (o : MatchOptions) (p : Pattern ε) :
    (p.compile o).NormalForm o.missingFields := by
  induction p with
  | any => exact normalForm_of_isLeaf trivial trivial
  | defined => exact normalForm_of_isLeaf trivial trivial
  | literal l => exact normalForm_of_isLeaf trivial trivial
  | guard g => exact normalForm_of_isLeaf trivial trivial
  | oneOf ls => exact normalForm_ofLiterals ls
  | not p ih => exact ih.negation
  | allOf ps ih =>
    rw [compile, compileEach_eq_map]
    exact .flattened .all (List.forall_mem_map.2 ih)
  | anyOf ps ih =>
    rw [compile, compileEach_eq_map]
    exact .flattened .any (List.forall_mem_map.2 ih)
  | fields fs ih =>
    -- here the treatment of missing properties is put in
    rw [compile, compileFields_eq_map]
    exact normalForm_fields_iff.2 ⟨rfl, List.forall_mem_map.2 ih⟩
  | elements ps ih =>
    rw [compile, compileEach_eq_map]
    exact normalForm_elements_iff.2 (List.forall_mem_map.2 ih)

/-- If compilation leaves the leaves of the operands as they are, then also those of the whole. -/
theorem leaves_flattened_compileEach (c : Connective) {o : MatchOptions} {ps : List (Pattern ε)}
    (h : ∀ p ∈ ps, (p.compile o).leaves = p.leaves) :
    (c.flattened (compileEach o ps)).leaves = leavesEach ps := by
  rw [leaves_flattened, compileEach_eq_map, List.flatMap_map, leavesEach_eq_flatMap]
  exact List.flatMap_congr h

/-- The leaves of a pattern are those of its compiled form, in order. -/
theorem leaves_compile (o : MatchOptions) (p : Pattern ε) : (p.compile o).leaves = p.leaves := by
  induction p with
  | any => rfl
  | defined => rfl
  | literal l => rfl
  | guard g => rfl
  | oneOf ls => exact leaves_ofLiterals ls
  | not p ih => rw [compile, leaves_negation, ih, leaves]
  | allOf ps ih => exact leaves_flattened_compileEach .all ih
  | anyOf ps ih => exact leaves_flattened_compileEach .any ih
  | fields fs ih =>
    -- each key stays in front of the leaves of its pattern
    rw [compile, leaves_fields, compileFields_eq_map, List.flatMap_map, leaves,
      leavesFields_eq_flatMap]
    exact List.flatMap_congr fun f hf => congrArg (Leaf.key f.1 :: ·) (ih f hf)
  | elements ps ih =>
    rw [compile, leaves_elements, compileEach_eq_map, List.flatMap_map, leaves,
      leavesEach_eq_flatMap]
    exact List.flatMap_congr ih

/-- If compilation adds no nodes to the operands, then also not to the whole. -/
theorem size_flattened_compileEach_le (c : Connective) {o : MatchOptions} {ps : List (Pattern ε)}
    (h : ∀ p ∈ ps, (p.compile o).size ≤ p.size) :
    (c.flattened (compileEach o ps)).size ≤ 1 + sizeEach ps := by
  calc (c.flattened (compileEach o ps)).size
      ≤ 1 + ((compileEach o ps).map CompiledPattern.size).sum := size_flattened_le c _
    _ = 1 + (ps.map fun p => (p.compile o).size).sum := by
      rw [compileEach_eq_map, List.map_map]
      rfl
    _ ≤ 1 + (ps.map size).sum := Nat.add_le_add_left (List.sum_le_sum h) 1
    _ = 1 + sizeEach ps := by rw [sizeEach_eq_sum]

/-- The compiled form has no more nodes than the pattern. -/
theorem size_compile_le (o : MatchOptions) (p : Pattern ε) : (p.compile o).size ≤ p.size := by
  induction p with
  | any => exact Nat.le_refl 1
  | defined => exact Nat.le_refl 1
  | literal l => exact Nat.le_refl 1
  | guard g => exact Nat.le_refl 1
  | oneOf ls => exact Nat.le_of_eq (size_ofLiterals ls)
  | not p ih =>
    -- the negation may cancel one below it, and then there are two nodes less
    calc (p.compile o).negation.size
        ≤ 1 + (p.compile o).size := size_negation_le _
      _ ≤ 1 + p.size := Nat.add_le_add_left ih 1
  | allOf ps ih => exact size_flattened_compileEach_le .all ih
  | anyOf ps ih => exact size_flattened_compileEach_le .any ih
  | fields fs ih =>
    rw [compile, size_fields, compileFields_eq_map, List.map_map, size, sizeFields_eq_sum]
    exact Nat.add_le_add_left (List.sum_le_sum ih) 1
  | elements ps ih =>
    rw [compile, size_elements, compileEach_eq_map, List.map_map, size, sizeEach_eq_sum]
    exact Nat.add_le_add_left (List.sum_le_sum ih) 1

/-- **Compilation ends in a normal form.** At no node of a compiled pattern is there a connective
left to take out, and every template in it treats missing properties as the options say. Nothing
else is taken out, doubled or moved: the leaves and the keys are those of the pattern, in order, and
there are no more nodes than in the pattern. Read as a pattern again, node for node, and compiled
under the same options, it stays as it is. -/
theorem compile_normalizes (o : MatchOptions) (p : Pattern ε) :
    (p.compile o).NormalForm o.missingFields ∧
      (p.compile o).leaves = p.leaves ∧
      (p.compile o).size ≤ p.size ∧
      (p.compile o).toPattern.compile o = p.compile o :=
  ⟨normalForm_compile o p, leaves_compile o p, size_compile_le o p,
    (normalForm_compile o p).compile_toPattern⟩

end Pattern

end Casewise
