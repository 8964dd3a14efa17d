import Casewise.Value

/-!
# What stands inside a value

A compound value is made of further values: the items of an array or a set, the values of the
properties of an object or an error, the keys and the values of a map. `Value.parts` lists them, and
`Value.OccursIn` follows them to any depth.

* `Value.parts` — the values that a value is made of.
* `Value.OccursIn` — `v.OccursIn w`: the value `v` is `w` itself or stands inside it.
* `Value.HoldsNaN` — some number that occurs in the value is a NaN.
-/

namespace Casewise.Value

/-- The values directly inside a value, in order; primitives, dates, regular expressions, bytes and
functions have none. -/
def parts : Value → List Value
  | .array items => items
  | .object r => r.props.map Prod.snd
  | .map entries => entries.flatMap fun e => [e.1, e.2]
  | .set items => items
  | .error r => r.props.map Prod.snd
  | _ => []

/-- The value `v` is another one, or a part of it, at any depth. -/
inductive OccursIn (v : Value) : Value → Prop
  | self : OccursIn v v
  | part {p w : Value} : p ∈ w.parts → OccursIn v p → OccursIn v w

/-- A NaN occurs in the value. -/
def HoldsNaN (v : Value) : Prop := ∃ x : Binary64, x.isNaN = true ∧ (number x).OccursIn v

/-- A NaN is the value itself, or one of the parts holds it. -/
theorem holdsNaN_iff {v : Value} :
    v.HoldsNaN ↔ (∃ x : Binary64, x.isNaN = true ∧ v = .number x) ∨ ∃ p ∈ v.parts, p.HoldsNaN := by
  constructor
  · rintro ⟨x, hx, hoccurs⟩
    cases hoccurs with
    | self => exact .inl ⟨x, hx, rfl⟩
    | part hp hoccurs => exact .inr ⟨_, hp, x, hx, hoccurs⟩
  · rintro (⟨x, hx, rfl⟩ | ⟨p, hp, x, hx, hoccurs⟩)
    · exact ⟨x, hx, .self⟩
    · exact ⟨x, hx, .part hp hoccurs⟩

theorem mem_parts_map {entries : List (Value × Value)} {e : Value × Value} (he : e ∈ entries) :
    e.1 ∈ (map entries).parts ∧ e.2 ∈ (map entries).parts := by
  constructor <;> exact List.mem_flatMap.2 ⟨e, he, by simp⟩

end Casewise.Value
