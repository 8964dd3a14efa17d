import Casewise.Document
import Casewise.Rules

/-!
# Well-formed declarations

JSON data, declared patterns and rule sets are plain data. Two things have to hold of them at every
depth for which their types leave room: a table lists every key once, and a double in JSON data is
finite. Integers are kept as they are, so nothing is asked of them. A document may repeat its keys,
so of a document only the second can be asked.

* `Json.WellFormed`, `PatternSpec.WellFormed`, `RuleSet.WellFormed`.
* `Document.Finite` — documents without infinities and NaN.
-/

namespace Casewise

namespace Json

mutual

/-- The keys of every object are distinct, and every double is finite. -/
def WellFormed : Json → Prop
  | .number (.real x) => x.isFinite = true
  | .array items => WellFormedEach items
  | .object members => OrderedMap.Distinct members ∧ WellFormedMembers members
  | _ => True

/-- The items of an array are well formed. -/
def WellFormedEach : List Json → Prop
  | [] => True
  | j :: js => j.WellFormed ∧ WellFormedEach js

/-- The members of an object are well formed; that their keys are distinct is asked beside it. -/
def WellFormedMembers : List (String × Json) → Prop
  | [] => True
  | (_, j) :: members => j.WellFormed ∧ WellFormedMembers members

end

/-- Items are well formed if each of them is. -/
theorem wellFormedEach_iff {js : List Json} : WellFormedEach js ↔ ∀ j ∈ js, j.WellFormed := by
  induction js with
  | nil => simp [WellFormedEach]
  | cons j js ih => rw [WellFormedEach, ih, List.forall_mem_cons]

/-- Members are well formed if the data under every key are. -/
theorem wellFormedMembers_iff {ms : List (String × Json)} :
    WellFormedMembers ms ↔ ∀ m ∈ ms, m.2.WellFormed := by
  induction ms with
  | nil => simp [WellFormedMembers]
  | cons m ms ih => rw [WellFormedMembers, ih, List.forall_mem_cons]

end Json

namespace Document

mutual

/-- Every double in the document is finite. -/
def Finite : Document → Prop
  | .real x => x.isFinite = true
  | .list ds => FiniteEach ds
  | .table es => FiniteEntries es
  | _ => True

/-- Every double in a list of documents is finite. -/
def FiniteEach : List Document → Prop
  | [] => True
  | d :: ds => d.Finite ∧ FiniteEach ds

/-- Every double in a table is finite, in its keys as in its values. -/
def FiniteEntries : List (Document × Document) → Prop
  | [] => True
  | (k, d) :: es => (k.Finite ∧ d.Finite) ∧ FiniteEntries es

end

/-- The documents of a list are finite if each of them is. -/
theorem finiteEach_iff {ds : List Document} : FiniteEach ds ↔ ∀ d ∈ ds, d.Finite := by
  induction ds with
  | nil => simp [FiniteEach]
  | cons d ds ih => rw [FiniteEach, ih, List.forall_mem_cons]

/-- The entries of a table are finite if both sides of each of them are. -/
theorem finiteEntries_iff {es : List (Document × Document)} :
    FiniteEntries es ↔ ∀ e ∈ es, e.1.Finite ∧ e.2.Finite := by
  induction es with
  | nil => simp [FiniteEntries]
  | cons e es ih => rw [FiniteEntries, ih, List.forall_mem_cons]

end Document

namespace PatternSpec

mutual

/-- The keys of every template over properties are distinct, and all JSON data are well formed. -/
def WellFormed : PatternSpec → Prop
  | .equals j => j.WellFormed
  | .oneOf js => ∀ j ∈ js, j.WellFormed
  | .not s => s.WellFormed
  | .fields fs => OrderedMap.Distinct fs ∧ WellFormedFields fs
  | .elements ss => WellFormedEach ss
  | .allOf ss => WellFormedEach ss
  | .anyOf ss => WellFormedEach ss
  | _ => True

/-- The declarations of a list are well formed. -/
def WellFormedEach : List PatternSpec → Prop
  | [] => True
  | s :: ss => s.WellFormed ∧ WellFormedEach ss

/-- What a template asks of its fields is well formed; that its keys are distinct is asked beside
it. -/
def WellFormedFields : List (String × PatternSpec) → Prop
  | [] => True
  | (_, s) :: fs => s.WellFormed ∧ WellFormedFields fs

end

/-- The declarations of a list are well formed if each of them is. -/
theorem wellFormedEach_iff {ss : List PatternSpec} :
    WellFormedEach ss ↔ ∀ s ∈ ss, s.WellFormed := by
  induction ss with
  | nil => simp [WellFormedEach]
  | cons s ss ih => rw [WellFormedEach, ih, List.forall_mem_cons]

/-- The fields of a template are well formed if what is asked of each of them is. -/
theorem wellFormedFields_iff {fs : List (String × PatternSpec)} :
    WellFormedFields fs ↔ ∀ f ∈ fs, f.2.WellFormed := by
  induction fs with
  | nil => simp [WellFormedFields]
  | cons f fs ih => rw [WellFormedFields, ih, List.forall_mem_cons]

end PatternSpec

/-- The condition and the data of the rule are well formed. -/
def Rule.WellFormed (r : Rule) : Prop := r.condition.WellFormed ∧ r.result.WellFormed

/-- All rules and the fallback are well formed. -/
structure RuleSet.WellFormed (r : RuleSet) : Prop where
  rules : ∀ rule ∈ r.rules, rule.WellFormed
  otherwise : ∀ j, r.otherwise = some j → j.WellFormed

end Casewise
