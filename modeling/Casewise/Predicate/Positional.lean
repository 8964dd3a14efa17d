import Casewise.Predicate
import Casewise.Value

/-!
# Predicates over positions and properties

Predicates that apply one predicate to each part of the input: to the two sides of a pair, to the
items of a list position by position, or to the properties of a value. Parts are visited in order
and the first failure ends the test.

* `Predicate.product` — a pair.
* `Predicate.tuple`, `Predicate.productMany` — at least as many items as predicates, each holding at
  its position; a list that is too short fails unseen.
* `Predicate.zipped` — each predicate that has an item holds of it; lengths do not matter.
* `Predicate.shape` — an object-like value whose listed properties pass, a missing one being tested
  as `undefined`.
-/

namespace Casewise.Predicate

variable {ε α β : Type}

def product (p : Predicate ε α) (q : Predicate ε β) : Predicate ε (α × β) :=
  ⟨fun ab => do if ← p.test ab.1 then q.test ab.2 else return false⟩

/-- Each predicate asked about the item at its position, up to the end of the shorter list. -/
def zipped (ps : List (Predicate ε α)) : Predicate ε (List α) :=
  ⟨fun items => Traced.all (fun e => e.1.test e.2) (ps.zip items)⟩

/-- As `zipped`, of lists that have an item for every predicate. -/
def tuple (ps : List (Predicate ε α)) : Predicate ε (List α) :=
  ⟨fun items => if ps.length ≤ items.length then (zipped ps).test items else return false⟩

/-- A tuple of one predicate or more. -/
def productMany (p : Predicate ε α) (ps : List (Predicate ε α)) : Predicate ε (List α) :=
  tuple (p :: ps)

/-- The listed properties of an object-like value, tested in order. -/
def shape (fields : List (PropertyKey × Predicate ε Value)) : Predicate ε Value :=
  ⟨fun v =>
    if v.isObjectLike then Traced.all (fun field => field.2.test (v.get field.1)) fields
    else return false⟩

end Casewise.Predicate
