import Casewise.Literal

/-!
# Extension of values

A value is extended by adding to it, at any depth: items at the end of an array, properties to an
object or an error. Nothing that is there changes otherwise, and no other kind of value can be added
to.

* `Value.ExtendedBy` — `v.ExtendedBy w`: the value `w` extends `v`.
* `Value.ExtendedBy.kind_eq`, `Value.ExtendedBy.property?`, `Value.ExtendedBy.items?` — the kind
  stays, and what is found in `v` is found at the same place in `w`, extended.
* `Value.ExtendedBy.eq_of_strictEquals` — what a literal is strictly equal to cannot be extended.
-/

namespace Casewise.Value

/-- The second value extends the first one: they are identical; or arrays, the second of which is at
least as long and extends each item of the first at its position; or objects, or errors, of one
class, the second of which has every property of the first and extends it. -/
inductive ExtendedBy : Value → Value → Prop
  | identical (v : Value) : ExtendedBy v v
  | array {vs ws : List Value} (hlength : vs.length ≤ ws.length)
    (hitems : ∀ (i : Nat) v w, vs[i]? = some v → ws[i]? = some w → ExtendedBy v w) :
    ExtendedBy (.array vs) (.array ws)
  | object {r s : Record Value} (hclass : r.className = s.className)
    (hkeys : ∀ key, r.contains key = true → s.contains key = true)
    (hprops : ∀ key v w, r.get? key = some v → s.get? key = some w → ExtendedBy v w) :
    ExtendedBy (.object r) (.object s)
  | error {r s : Record Value} (hclass : r.className = s.className)
    (hkeys : ∀ key, r.contains key = true → s.contains key = true)
    (hprops : ∀ key v w, r.get? key = some v → s.get? key = some w → ExtendedBy v w) :
    ExtendedBy (.error r) (.error s)

namespace ExtendedBy

variable {v w : Value}

/-- Nothing changes its kind by being extended. -/
theorem kind_eq (h : v.ExtendedBy w) : v.kind = w.kind := by
  cases h <;> rfl

/-- A property of a record is found, extended, in a record that has its keys and extends what
stands under them. -/
private theorem exists_get? {r s : Record Value} {key : PropertyKey} {x : Value}
    (hkeys : ∀ key, r.contains key = true → s.contains key = true)
    (hprops : ∀ key v w, r.get? key = some v → s.get? key = some w → ExtendedBy v w)
    (hx : r.get? key = some x) : ∃ y, s.get? key = some y ∧ x.ExtendedBy y := by
  have hcontains : s.contains key = true := hkeys key (Option.isSome_iff_exists.2 ⟨x, hx⟩)
  obtain ⟨y, hy⟩ := Option.isSome_iff_exists.1 hcontains
  exact ⟨y, hy, hprops key x y hx hy⟩

/-- Objects are compared entry by entry. -/
theorem object_of_forall_mem {r s : Record Value} (hclass : r.className = s.className)
    (h : ∀ e ∈ r.props, ∃ y, s.get? e.1 = some y ∧ e.2.ExtendedBy y) :
    ExtendedBy (.object r) (.object s) := by
  have hget : ∀ key x, r.get? key = some x → ∃ y, s.get? key = some y ∧ x.ExtendedBy y := by
    intro key x hx
    obtain ⟨e, he, hkey, rfl⟩ := OrderedMap.exists_mem_of_get? hx
    obtain ⟨y, hy, hxy⟩ := h e he
    exact ⟨y, (OrderedMap.get?_congr s.props hkey).symm.trans hy, hxy⟩
  refine .object hclass (fun key hkey => ?_) fun key x y hx hy => ?_
  · obtain ⟨x, hx⟩ := Option.isSome_iff_exists.1 hkey
    obtain ⟨y, hy, -⟩ := hget key x hx
    exact Option.isSome_iff_exists.2 ⟨y, hy⟩
  · obtain ⟨y', hy', hxy⟩ := hget key x hx
    cases hy.symm.trans hy'
    exact hxy

/-- A property of a value is found in every extension of it, where it may itself be extended. -/
theorem property? (h : v.ExtendedBy w) {key : PropertyKey} {x : Value}
    (hx : v.property? key = some x) : ∃ y, w.property? key = some y ∧ x.ExtendedBy y := by
  cases h with
  | identical => exact ⟨x, hx, .identical x⟩
  | array => cases hx
  | object _ hkeys hprops => exact exists_get? hkeys hprops hx
  | error _ hkeys hprops => exact exists_get? hkeys hprops hx

/-- An array extends to arrays only, and each of its items is found at its position there, where it
may itself be extended. -/
theorem items? (h : v.ExtendedBy w) {vs : List Value} (hvs : v.items? = some vs) :
    ∃ ws, w.items? = some ws ∧
      ∀ (i : Nat) x, vs[i]? = some x → ∃ y, ws[i]? = some y ∧ x.ExtendedBy y := by
  cases h with
  | identical => exact ⟨vs, hvs, fun i x hx => ⟨x, hx, .identical x⟩⟩
  | @array _ ws hlength hitems =>
    cases hvs
    refine ⟨ws, rfl, fun i x hx => ?_⟩
    -- the position exists in the longer array too
    have hi : i < ws.length := Nat.lt_of_lt_of_le (List.getElem?_eq_some_iff.1 hx).1 hlength
    have hy : ws[i]? = some ws[i] := List.getElem?_eq_getElem hi
    exact ⟨ws[i], hy, hitems i x _ hx hy⟩
  | object => cases hvs
  | error => cases hvs

/-- A value that some literal is strictly equal to is a primitive or a symbol, and these have no
extension but themselves. -/
theorem eq_of_strictEquals (h : v.ExtendedBy w) {l : Literal} (hl : l.strictEquals v = true) :
    w = v := by
  cases h with
  | identical => rfl
  | _ => cases l <;> cases hl

end ExtendedBy

end Casewise.Value
