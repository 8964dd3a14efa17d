import Casewise.Pattern.Compiled

/-!
# Normal forms of compiled patterns

What compilation may take out of a pattern is connectives: a double negation, a connective inside a
connective of its kind, a connective around a single operand. This module says what is left in the
end, and what must not get lost on the way.

* `Pattern.leaves` — what stands at the ends of a pattern, and the keys of its templates, in order.
* `Pattern.size` — the number of its nodes.
* `CompiledPattern.toPattern` — a compiled pattern read as a pattern again, node for node.
* `CompiledPattern.leaves`, `CompiledPattern.size` — the same of a compiled pattern.
* `CompiledPattern.PartOf` — the nodes of a compiled pattern.
* `CompiledPattern.NormalForm` — at none of its nodes is there anything left to take out, and all of
  its templates treat missing properties in the given way.

A normal form is resolved constructor by constructor, by `normalForm_of_isLeaf` and the lemmas after
it.
-/

namespace Casewise

variable {ε : Type}

namespace Pattern

/-- What can stand at the end of a pattern, or before a part of it: a test, or the key of a
property. -/
inductive Leaf (ε : Type) where
  | any
  | defined
  | literal (l : Literal)
  | guard (p : Predicate ε Value)
  | key (k : PropertyKey)

mutual

/-- The leaves of a pattern from left to right. A set of literals has each of them for a leaf, and a
template over properties has every key before the leaves of the pattern under it. -/
def leaves : Pattern ε → List (Leaf ε)
  | .any => [.any]
  | .defined => [.defined]
  | .literal l => [.literal l]
  | .oneOf ls => ls.map .literal
  | .guard p => [.guard p]
  | .not p => leaves p
  | .allOf ps => leavesEach ps
  | .anyOf ps => leavesEach ps
  | .fields fs => leavesFields fs
  -- unlike a key, the number of a position is not recorded
  | .elements ps => leavesEach ps

/-- The leaves of operands or items, one behind the other. -/
def leavesEach : List (Pattern ε) → List (Leaf ε)
  | [] => []
  | p :: ps => leaves p ++ leavesEach ps

/-- The leaves of a template over properties, every key in front of those of the pattern under
it. -/
def leavesFields : List (PropertyKey × Pattern ε) → List (Leaf ε)
  | [] => []
  | (k, p) :: fs => .key k :: (leaves p ++ leavesFields fs)

end

mutual

/-- The number of nodes of a pattern. -/
def size : Pattern ε → Nat
  | .not p => 1 + size p
  | .allOf ps => 1 + sizeEach ps
  | .anyOf ps => 1 + sizeEach ps
  | .fields fs => 1 + sizeFields fs
  | .elements ps => 1 + sizeEach ps
  | _ => 1

/-- The number of nodes of operands or items. -/
def sizeEach : List (Pattern ε) → Nat
  | [] => 0
  | p :: ps => size p + sizeEach ps

/-- The number of nodes under the keys of a template. -/
def sizeFields : List (PropertyKey × Pattern ε) → Nat
  | [] => 0
  | (_, p) :: fs => size p + sizeFields fs

end

end Pattern

namespace CompiledPattern

mutual

/-- The compiled pattern as a pattern, node for node. -/
def toPattern : CompiledPattern ε → Pattern ε
  | .any => .any
  | .defined => .defined
  | .literal l => .literal l
  | .oneOf ls => .oneOf ls
  | .guard p => .guard p
  | .not p => .not (toPattern p)
  | .allOf ps => .allOf (toPatternEach ps)
  | .anyOf ps => .anyOf (toPatternEach ps)
  -- a pattern does not say how missing properties are treated
  | .fields fs _ => .fields (toPatternFields fs)
  | .elements ps => .elements (toPatternEach ps)

/-- Operands and items as patterns, in their order. -/
def toPatternEach : List (CompiledPattern ε) → List (Pattern ε)
  | [] => []
  | p :: ps => toPattern p :: toPatternEach ps

/-- What a template asks of its fields, as patterns under the same keys. -/
def toPatternFields :
    List (PropertyKey × CompiledPattern ε) → List (PropertyKey × Pattern ε)
  | [] => []
  | (k, p) :: fs => (k, toPattern p) :: toPatternFields fs

end

/-- The leaves of a compiled pattern from left to right. -/
def leaves (p : CompiledPattern ε) : List (Pattern.Leaf ε) := p.toPattern.leaves

/-- The number of nodes of a compiled pattern. -/
def size (p : CompiledPattern ε) : Nat := p.toPattern.size

/-- The pattern `q` is a node of another one, or that pattern itself. -/
inductive PartOf (q : CompiledPattern ε) : CompiledPattern ε → Prop
  | self : PartOf q q
  | not {p : CompiledPattern ε} : PartOf q p → PartOf q (.not p)
  | allOf {p : CompiledPattern ε} {ps : List (CompiledPattern ε)} :
    p ∈ ps → PartOf q p → PartOf q (.allOf ps)
  | anyOf {p : CompiledPattern ε} {ps : List (CompiledPattern ε)} :
    p ∈ ps → PartOf q p → PartOf q (.anyOf ps)
  | fields {f : PropertyKey × CompiledPattern ε} {fs : List (PropertyKey × CompiledPattern ε)}
    {missing : MissingFields} : f ∈ fs → PartOf q f.2 → PartOf q (.fields fs missing)
  | elements {p : CompiledPattern ε} {ps : List (CompiledPattern ε)} :
    p ∈ ps → PartOf q p → PartOf q (.elements ps)

/-- The outermost node negates. -/
def IsNegation : CompiledPattern ε → Prop
  | .not _ => True
  | _ => False

/-- The outermost node is a conjunction, of however many operands. -/
def IsConjunction : CompiledPattern ε → Prop
  | .allOf _ => True
  | _ => False

/-- The outermost node is a disjunction of patterns; a set of literals is none. -/
def IsDisjunction : CompiledPattern ε → Prop
  | .anyOf _ => True
  | _ => False

/-- At the root there is nothing to take out: a negation is not of a negation, a connective has no
operand of its own kind and not just one operand, a set of literals has not just one of them. A
template over properties treats missing properties in the given way. -/
def NormalAtRoot (missing : MissingFields) : CompiledPattern ε → Prop
  | .oneOf ls => ls.length ≠ 1
  | .not p => ¬p.IsNegation
  | .allOf ps => ps.length ≠ 1 ∧ ∀ p ∈ ps, ¬p.IsConjunction
  | .anyOf ps => ps.length ≠ 1 ∧ ∀ p ∈ ps, ¬p.IsDisjunction
  | .fields _ m => m = missing
  | _ => True

/-- There is nothing to take out at any node. -/
def NormalForm (missing : MissingFields) (p : CompiledPattern ε) : Prop :=
  ∀ q : CompiledPattern ε, q.PartOf p → q.NormalAtRoot missing

/-- A compiled pattern without patterns inside. -/
def IsLeaf : CompiledPattern ε → Prop
  | .any => True
  | .defined => True
  | .literal _ => True
  | .oneOf _ => True
  | .guard _ => True
  | _ => False

/-! ### Normal forms, constructor by constructor -/

variable {missing : MissingFields} {p : CompiledPattern ε}

/-- The root is one of the nodes. -/
theorem NormalForm.atRoot (h : p.NormalForm missing) : p.NormalAtRoot missing :=
  h p .self

/-- For a pattern without patterns inside there is only the root to look at. -/
theorem normalForm_of_isLeaf (hleaf : p.IsLeaf) (h : p.NormalAtRoot missing) :
    p.NormalForm missing := by
  intro q hq
  -- a leaf has no other nodes than its root
  cases hq with
  | self => exact h
  | not | allOf | anyOf | fields | elements => exact hleaf.elim

/-- A negation is in normal form if it negates one, and nothing that is a negation itself. -/
theorem normalForm_not_iff :
    p.not.NormalForm missing ↔ ¬p.IsNegation ∧ p.NormalForm missing := by
  refine ⟨?_, ?_⟩
  · exact fun h => ⟨h.atRoot, fun q hq => h q (.not hq)⟩
  · rintro ⟨hroot, h⟩ q hq
    cases hq with
    | self => exact hroot
    | not hq => exact h q hq

/-- A conjunction is in normal form if its operands are, if none of them is a conjunction, and if
there is not just one of them. -/
theorem normalForm_allOf_iff {ps : List (CompiledPattern ε)} :
    (allOf ps).NormalForm missing ↔
      ps.length ≠ 1 ∧ ∀ p ∈ ps, p.NormalForm missing ∧ ¬p.IsConjunction := by
  refine ⟨fun h => ?_, ?_⟩
  · obtain ⟨hlength, hroots⟩ := h.atRoot
    exact ⟨hlength, fun p hp => ⟨fun q hq => h q (.allOf hp hq), hroots p hp⟩⟩
  · rintro ⟨hlength, h⟩ q hq
    cases hq with
    -- the root itself, of which the operands are asked only that they are no conjunctions
    | self => exact ⟨hlength, fun p hp => (h p hp).2⟩
    | allOf hp hq => exact (h _ hp).1 q hq

/-- A disjunction is in normal form if its operands are, if none of them is a disjunction, and if
there is not just one of them. -/
theorem normalForm_anyOf_iff {ps : List (CompiledPattern ε)} :
    (anyOf ps).NormalForm missing ↔
      ps.length ≠ 1 ∧ ∀ p ∈ ps, p.NormalForm missing ∧ ¬p.IsDisjunction := by
  refine ⟨fun h => ?_, ?_⟩
  · obtain ⟨hlength, hroots⟩ := h.atRoot
    exact ⟨hlength, fun p hp => ⟨fun q hq => h q (.anyOf hp hq), hroots p hp⟩⟩
  · rintro ⟨hlength, h⟩ q hq
    cases hq with
    | self => exact ⟨hlength, fun p hp => (h p hp).2⟩
    | anyOf hp hq => exact (h _ hp).1 q hq

/-- A template over properties is in normal form if what it asks of its fields is, missing
properties being treated in the given way. -/
theorem normalForm_fields_iff {fs : List (PropertyKey × CompiledPattern ε)} {m : MissingFields} :
    (fields fs m).NormalForm missing ↔ m = missing ∧ ∀ f ∈ fs, f.2.NormalForm missing := by
  refine ⟨?_, ?_⟩
  · exact fun h => ⟨h.atRoot, fun f hf q hq => h q (.fields hf hq)⟩
  · rintro ⟨hroot, h⟩ q hq
    cases hq with
    | self => exact hroot
    | fields hf hq => exact h _ hf q hq

/-- A template over positions is in normal form if what it asks of the items is. -/
theorem normalForm_elements_iff {ps : List (CompiledPattern ε)} :
    (elements ps).NormalForm missing ↔ ∀ p ∈ ps, p.NormalForm missing := by
  refine ⟨?_, fun h q hq => ?_⟩
  · exact fun h p hp q hq => h q (.elements hp hq)
  · cases hq with
    | self => trivial
    | elements hp hq => exact h _ hp q hq

end CompiledPattern

end Casewise
