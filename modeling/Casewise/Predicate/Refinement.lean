import Casewise.Predicate
import Casewise.Value

/-!
# Refinements

A refinement is a test that hands on what it found: a narrower view of its input, or nothing.
Refinements compose, and any of them can be used as a predicate.

* `Refinement.compose` — a refinement of the view.
* `Refinement.andThen` — a predicate asked about the view; without a view it fails unasked.
* `Refinement.toPredicate` — whether there is a view.
* `Refinement.string`, `Refinement.number`, `Refinement.array`, `Refinement.object`,
  `Refinement.nonEmpty` — the refinements of values and strings.
-/

namespace Casewise

/-- A partial view of `α` as `β`. -/
structure Refinement (α β : Type) where
  refine? : α → Option β

namespace Refinement

variable {ε α β γ : Type}

/-- The view of the view, if there are both. -/
def compose (r : Refinement α β) (s : Refinement β γ) : Refinement α γ :=
  ⟨fun a => (r.refine? a).bind s.refine?⟩

/-- Asks `p` about the view; false without one. -/
def andThen (r : Refinement α β) (p : Predicate ε β) : Predicate ε α :=
  ⟨fun a => match r.refine? a with
    | some b => p.test b
    | none => return false⟩

/-- Whether there is a view; asking emits nothing. -/
def toPredicate (r : Refinement α β) : Predicate ε α := .ofBool fun a => (r.refine? a).isSome

/-- The text of a string. -/
def string : Refinement Value String := ⟨Value.text?⟩

/-- The double that a number is; big integers have none. -/
def number : Refinement Value Binary64 := ⟨Value.number?⟩

/-- The items of an array. -/
def array : Refinement Value (List Value) := ⟨Value.items?⟩

/-- The properties of an object or an error. -/
def object : Refinement Value (Record Value) := ⟨Value.record?⟩

/-- A string that has a character. -/
def nonEmpty : Refinement String String := ⟨fun s => if s.isEmpty then none else some s⟩

end Refinement

end Casewise
