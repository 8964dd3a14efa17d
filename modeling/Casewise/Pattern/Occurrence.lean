import Casewise.Pattern

/-!
# Parts of a pattern

Many laws of matching ask something of every part of a pattern of a certain kind: of its guards, of
its templates, of its negations. `Pattern.OccursAt` says which patterns are parts of a pattern, and
below how many negations each of them stands.

* `Pattern.OccursAt` — `q.OccursAt n p`: the pattern `q` is a part of `p` below `n` negations.
* `Pattern.EveryGuard` — a property of all guards of a pattern.
* `Pattern.NegationFree` — no negation anywhere.

Both speak of the parts of one shape, guards and negations, and both are resolved constructor by
constructor: `Pattern.EveryPart` is what they have in common, and `Pattern.everyPart_of_isLeaf` and
the lemmas after it say what it comes to for every pattern that is not itself of the shape.
-/

namespace Casewise.Pattern

variable {ε : Type}

/-- The pattern `q` is a part of another one, below that many negations. -/
inductive OccursAt (q : Pattern ε) : Nat → Pattern ε → Prop
  | self : OccursAt q 0 q
  | not {n : Nat} {p : Pattern ε} : OccursAt q n p → OccursAt q (n + 1) (.not p)
  | allOf {n : Nat} {p : Pattern ε} {ps : List (Pattern ε)} :
    p ∈ ps → OccursAt q n p → OccursAt q n (.allOf ps)
  | anyOf {n : Nat} {p : Pattern ε} {ps : List (Pattern ε)} :
    p ∈ ps → OccursAt q n p → OccursAt q n (.anyOf ps)
  | fields {n : Nat} {f : PropertyKey × Pattern ε} {fs : List (PropertyKey × Pattern ε)} :
    f ∈ fs → OccursAt q n f.2 → OccursAt q n (.fields fs)
  | elements {n : Nat} {p : Pattern ε} {ps : List (Pattern ε)} :
    p ∈ ps → OccursAt q n p → OccursAt q n (.elements ps)

/-- All guards of the pattern are of this kind. -/
def EveryGuard (kind : Predicate ε Value → Prop) (p : Pattern ε) : Prop :=
  ∀ n g, (guard g).OccursAt n p → kind g

/-- No part of the pattern is a negation. -/
def NegationFree (p : Pattern ε) : Prop := ∀ n q, ¬(not q).OccursAt n p

/-- Wherever a part of the pattern has the shape `shape a`, the `a` in it is of this kind. For the
shape `guard` this says of what kind the guards are, and for the shape `not`, with a kind to which
nothing belongs, that there are no negations. -/
def EveryPart {α : Type} (shape : α → Pattern ε) (kind : α → Prop) (p : Pattern ε) : Prop :=
  ∀ n a, (shape a).OccursAt n p → kind a

/-- A pattern without patterns inside. -/
def IsLeaf : Pattern ε → Prop
  | .any => True
  | .defined => True
  | .literal _ => True
  | .oneOf _ => True
  | .guard _ => True
  | _ => False

/-! ### Constructor by constructor -/

section EveryPart

variable {α : Type} {shape : α → Pattern ε} {kind : α → Prop}

/-- A leaf has no part but itself. -/
theorem everyPart_of_isLeaf {p : Pattern ε} (h : p.IsLeaf) (hp : ∀ a, shape a = p → kind a) :
    p.EveryPart shape kind := by
  intro n a ha
  generalize hq : shape a = q at ha
  cases ha with
  | self => exact hp a hq
  -- the part is further inside, which it cannot be in a leaf
  | _ => exact h.elim

/-- The parts of a negation that are not the negation itself are those of what it negates. -/
theorem everyPart_not_iff {p : Pattern ε} (hp : ∀ a, shape a ≠ not p) :
    (not p).EveryPart shape kind ↔ p.EveryPart shape kind := by
  constructor
  -- the parts of what is negated stand below one negation more
  · exact fun h n a ha => h (n + 1) a (.not ha)
  · intro h n a ha
    generalize hq : shape a = q at ha
    cases ha with
    | self => exact absurd hq (hp a)
    | not ha => exact h _ a (hq ▸ ha)

/-- The parts of a conjunction that are not the conjunction itself are those of its members. -/
theorem everyPart_allOf_iff {ps : List (Pattern ε)} (hps : ∀ a, shape a ≠ allOf ps) :
    (allOf ps).EveryPart shape kind ↔ ∀ p ∈ ps, p.EveryPart shape kind := by
  constructor
  · exact fun h p hp n a ha => h n a (.allOf hp ha)
  · intro h n a ha
    generalize hq : shape a = q at ha
    cases ha with
    | self => exact absurd hq (hps a)
    | allOf hp ha => exact h _ hp n a (hq ▸ ha)

/-- The parts of an alternative that are not the alternative itself are those of its members. -/
theorem everyPart_anyOf_iff {ps : List (Pattern ε)} (hps : ∀ a, shape a ≠ anyOf ps) :
    (anyOf ps).EveryPart shape kind ↔ ∀ p ∈ ps, p.EveryPart shape kind := by
  constructor
  · exact fun h p hp n a ha => h n a (.anyOf hp ha)
  · intro h n a ha
    generalize hq : shape a = q at ha
    cases ha with
    | self => exact absurd hq (hps a)
    | anyOf hp ha => exact h _ hp n a (hq ▸ ha)

/-- The parts of a template that are not the template itself are those of what it asks of its
fields. -/
theorem everyPart_fields_iff {fs : List (PropertyKey × Pattern ε)}
    (hfs : ∀ a, shape a ≠ fields fs) :
    (fields fs).EveryPart shape kind ↔ ∀ f ∈ fs, f.2.EveryPart shape kind := by
  constructor
  · exact fun h f hf n a ha => h n a (.fields hf ha)
  · intro h n a ha
    generalize hq : shape a = q at ha
    cases ha with
    | self => exact absurd hq (hfs a)
    | fields hf ha => exact h _ hf n a (hq ▸ ha)

/-- The parts of a template for an array that are not the template itself are those of what it asks
of the items. -/
theorem everyPart_elements_iff {ps : List (Pattern ε)} (hps : ∀ a, shape a ≠ elements ps) :
    (elements ps).EveryPart shape kind ↔ ∀ p ∈ ps, p.EveryPart shape kind := by
  constructor
  · exact fun h p hp n a ha => h n a (.elements hp ha)
  · intro h n a ha
    generalize hq : shape a = q at ha
    cases ha with
    | self => exact absurd hq (hps a)
    | elements hp ha => exact h _ hp n a (hq ▸ ha)

end EveryPart

/-- A negation is not free of negations. -/
theorem not_negationFree_not {p : Pattern ε} : ¬p.not.NegationFree :=
  fun h => h 0 p .self

section EveryGuard

variable {kind : Predicate ε Value → Prop}

/-- A leaf that is not a guard has no guards. -/
theorem everyGuard_of_isLeaf {p : Pattern ε} (h : p.IsLeaf) (hp : ∀ g, p ≠ guard g) :
    p.EveryGuard kind :=
  everyPart_of_isLeaf h fun g hg => absurd hg.symm (hp g)

/-- A pattern that is a guard has that guard alone. -/
theorem everyGuard_guard_iff {g : Predicate ε Value} :
    (guard g).EveryGuard kind ↔ kind g := by
  constructor
  · exact fun h => h 0 g .self
  · intro h n g' hg
    cases hg
    exact h

end EveryGuard

end Casewise.Pattern
