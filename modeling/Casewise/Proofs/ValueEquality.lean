import Casewise.Json
import Casewise.Predicate.Guards
import Casewise.Proofs.NestedInduction
import Casewise.Value.Equality
import Casewise.Value.WellFormed

/-!
# What equal values share

Equality of values looks past the order of properties and past the sign of a zero. All that can be
seen of a value from outside is the same for two equal values, and what is found inside of them is
equal again.

* `Value.equalsCases` — two equal values are of one kind, and of each kind it is known what makes
  them equal;
* `Value.kind_eq_of_equals`, `Literal.strictEquals_eq_of_equals`, `Guard.holds_eq_of_equals` — equal
  values have one kind and give literals and the guards of the vocabulary one answer;
* `Value.Alike.property?_rel`, `Value.Alike.items_rel` — equal values have equal properties under
  the same keys and equal items at the same positions.

The one step that is not symmetric is equality of records: it compares their sizes and then looks up
the keys of the first record in the second one. That a key missing in the first record is missing in
the second one as well takes counting (`OrderedMap.get?_rel`) and holds because the keys of a record
are distinct; so the values are assumed to be well formed, as all values are that JSON data denote
(`Json.wellFormed_toValue`).
-/

namespace Casewise

namespace Value

/-! ### What is shared by equal values -/

/-- **Cases of an equality.** Two equal values are of one kind and have equal content. -/
@[elab_as_elim]
theorem equalsCases {motive : ∀ v w : Value, v.equals w = true → Prop}
    (undefined : motive .undefined .undefined rfl) (null : motive .null .null rfl)
    (bool : ∀ b h, motive (.bool b) (.bool b) h)
    (number : ∀ x y (h : x.equals y = true), motive (.number x) (.number y) h)
    (bigint : ∀ n h, motive (.bigint n) (.bigint n) h)
    (string : ∀ s h, motive (.string s) (.string s) h)
    (symbol : ∀ s t (h : (s == t) = true), motive (.symbol s) (.symbol t) h)
    (array : ∀ vs ws (h : equalsEach vs ws = true), motive (.array vs) (.array ws) h)
    (object : ∀ r s (h : equalsRecord r s = true), motive (.object r) (.object s) h)
    (map : ∀ vs ws (h : equalsPairs vs ws = true), motive (.map vs) (.map ws) h)
    (set : ∀ vs ws (h : equalsEach vs ws = true), motive (.set vs) (.set ws) h)
    (date : ∀ i h, motive (.date i) (.date i) h)
    (error : ∀ r s (h : equalsRecord r s = true), motive (.error r) (.error s) h)
    (regexp : ∀ source h, motive (.regexp source) (.regexp source) h)
    (bytes : ∀ content h, motive (.bytes content) (.bytes content) h)
    (function : ∀ f g (h : (f.id == g.id) = true), motive (.function f) (.function g) h)
    {v w : Value} (h : v.equals w = true) : motive v w h := by
  match v, w with
  | .undefined, .undefined => exact undefined
  | .null, .null => exact null
  | .bool a, .bool b => cases eq_of_beq h; exact bool a h
  | .number x, .number y => exact number x y h
  | .bigint a, .bigint b => cases eq_of_beq h; exact bigint a h
  | .string a, .string b => cases eq_of_beq h; exact string a h
  | .symbol s, .symbol t => exact symbol s t h
  | .array vs, .array ws => exact array vs ws h
  | .object r, .object s => exact object r s h
  | .map vs, .map ws => exact map vs ws h
  | .set vs, .set ws => exact set vs ws h
  | .date i, .date j => cases eq_of_beq h; exact date i h
  | .error r, .error s => exact error r s h
  | .regexp a, .regexp b => cases eq_of_beq h; exact regexp a h
  | .bytes a, .bytes b => cases eq_of_beq h; exact bytes a h
  | .function f, .function g => exact function f g h

/-- Equal values are of one kind. -/
theorem kind_eq_of_equals {v w : Value} (h : v.equals w = true) : v.kind = w.kind := by
  cases h using equalsCases <;> rfl

/-- Equal values have one text, if they have any. -/
theorem text?_eq_of_equals {v w : Value} (h : v.equals w = true) : v.text? = w.text? := by
  cases h using equalsCases <;> rfl

/-- Equal values are truthy together. The two zeros are, though they are different words. -/
theorem isTruthy_eq_of_equals {v w : Value} (h : v.equals w = true) :
    v.isTruthy = w.isTruthy := by
  cases h using equalsCases with
  | number x y h =>
    -- equal numbers are at one place of the line, and the zeros alone are at its origin
    simp only [Binary64.equals, Bool.and_eq_true, Bool.not_eq_true', beq_iff_eq] at h
    obtain ⟨⟨hx, hy⟩, horder⟩ := h
    have hzero : x.isZero = y.isZero := by
      grind [Binary64.isZero, Binary64.order]
    simp only [isTruthy, hx, hy, hzero]
  | _ => rfl

/-- Records are equal if they are of one class and one size, and if the second has an equal value
for every entry of the first. -/
theorem equalsRecord_iff {r s : Record Value} :
    equalsRecord r s = true ↔
      r.className = s.className ∧ r.size = s.size ∧ equalsProps r.props s.props = true := by
  rw [equalsRecord, Bool.and_eq_true, Bool.and_eq_true, beq_iff_eq, beq_iff_eq, and_assoc]
  rfl

/-- Equal values are of one class. -/
theorem className?_eq_of_equals {v w : Value} (h : v.equals w = true) :
    v.className? = w.className? := by
  cases h using equalsCases with
  | object r s h => simp only [className?, (equalsRecord_iff.1 h).1]
  | error r s h => simp only [className?, (equalsRecord_iff.1 h).1]
  | _ => rfl

/-! ### Properties and items -/

/-- Two well-formed values that are equal. -/
structure Alike (v w : Value) : Prop where
  left : v.WellFormed
  right : w.WellFormed
  equal : v.equals w = true

/-- Where one list of properties has a value, one that is equal to it has an equal value. -/
theorem exists_get?_of_equalsProps {ps qs : List (PropertyKey × Value)}
    (h : equalsProps ps qs = true) {key : PropertyKey} {v : Value}
    (hv : OrderedMap.get? ps key = some v) :
    ∃ w, OrderedMap.get? qs key = some w ∧ v.equals w = true := by
  induction ps with
  | nil => cases hv
  | cons e ps ih =>
    rw [equalsProps, Bool.and_eq_true] at h
    rw [OrderedMap.get?] at hv
    -- whether the first entry is the one that is looked up
    cases hkey : e.1 == key with
    | false =>
      rw [hkey] at hv
      exact ih h.2 hv
    | true =>
      rw [hkey] at hv
      cases hv
      have hhead := h.1
      rw [OrderedMap.get?_congr qs hkey] at hhead
      cases hget : OrderedMap.get? qs key with
      | some w => rw [hget] at hhead; exact ⟨w, rfl, hhead⟩
      | none => rw [hget] at hhead; cases hhead

/-- Equal records have equal values under the same keys, and the same keys are missing in them. -/
theorem get?_rel_of_equalsRecord {r s : Record Value} (hr : OrderedMap.Distinct r.props)
    (h : equalsRecord r s = true) (key : PropertyKey) :
    Option.Rel (fun v w => v.equals w = true) (r.get? key) (s.get? key) := by
  obtain ⟨-, hsize, hprops⟩ := equalsRecord_iff.1 h
  exact OrderedMap.get?_rel hr (Nat.le_of_eq hsize.symm)
    (fun _ _ => exists_get?_of_equalsProps hprops) key

/-- Equal lists have equal items at the same positions. -/
theorem getElem?_rel_of_equalsEach {vs ws : List Value} (h : equalsEach vs ws = true) (i : Nat) :
    Option.Rel (fun v w => v.equals w = true) vs[i]? ws[i]? := by
  -- both lists end together, since comparing them fails where only one does
  induction vs generalizing ws i with
  | nil =>
    cases ws with
    | nil => exact .none
    | cons w ws => cases h
  | cons v vs ih =>
    cases ws with
    | nil => cases h
    | cons w ws =>
      rw [equalsEach, Bool.and_eq_true] at h
      cases i with
      | zero => exact .some h.1
      | succ i => exact ih h.2 i

namespace Alike

variable {v w : Value}

/-- Equal values on both sides are alike, since both sides are well formed. -/
private theorem rel_of_wellFormed {a b : Option Value} (ha : ∀ x, a = some x → x.WellFormed)
    (hb : ∀ y, b = some y → y.WellFormed)
    (h : Option.Rel (fun x y => x.equals y = true) a b) : Option.Rel Alike a b := by
  cases h with
  | none => exact .none
  | some h => exact .some ⟨ha _ rfl, hb _ rfl, h⟩

/-- Under each key, alike values have alike properties or both have none. -/
theorem property?_rel (h : Alike v w) (key : PropertyKey) :
    Option.Rel Alike (v.property? key) (w.property? key) := by
  refine rel_of_wellFormed (fun _ => h.left.property?) (fun _ => h.right.property?) ?_
  obtain ⟨hv, -, heq⟩ := h
  -- objects and errors have properties; the other kinds have none on either side
  cases heq using equalsCases with
  | object r s hrs => exact get?_rel_of_equalsRecord (wellFormedRecord_iff.1 hv).1 hrs key
  | error r s hrs => exact get?_rel_of_equalsRecord (wellFormedRecord_iff.1 hv).1 hrs key
  | _ => exact .none

/-- Alike values have alike items position by position, or neither is an array. -/
theorem items_rel (h : Alike v w) :
    Option.Rel (fun vs ws => ∀ i : Nat, Option.Rel Alike vs[i]? ws[i]?) v.items? w.items? := by
  obtain ⟨hv, hw, heq⟩ := h
  cases heq using equalsCases with
  | array vs ws hitems =>
    exact .some fun i => rel_of_wellFormed (fun _ hx => hv.item rfl (List.mem_of_getElem? hx))
      (fun _ hy => hw.item rfl (List.mem_of_getElem? hy)) (getElem?_rel_of_equalsEach hitems i)
  | _ => exact .none

end Alike

end Value

/-! ### Values that JSON data denote -/

/-- The value that JSON data denote is well formed, even where the data repeat a key. -/
theorem Json.wellFormed_toValue (j : Json) : j.toValue.WellFormed := by
  induction j with
  | null | bool | number | string => trivial
  | array items ih =>
    rw [toValue, toValues_eq_map]
    exact Value.wellFormedEach_iff.2 (List.forall_mem_map.2 ih)
  | object members ih =>
    rw [toValue, toProps_eq_map]
    exact Value.wellFormedRecord_ofList (List.forall_mem_map.2 ih)

/-! ### Literals and guards -/

/-- A literal is strictly equal to both of two equal values or to neither. -/
theorem Literal.strictEquals_eq_of_equals (l : Literal) {v w : Value} (h : v.equals w = true) :
    l.strictEquals v = l.strictEquals w := by
  cases h using Value.equalsCases with
  -- equal numbers may be different words, so here equality has to be chained
  | number x y h =>
    cases l with
    | number a =>
      rw [Bool.eq_iff_iff]
      exact ⟨fun ha => Binary64.equals_trans ha h,
        fun ha => Binary64.equals_trans ha (Binary64.equals_comm x y ▸ h)⟩
    | _ => rfl
  | symbol s t h =>
    cases l with
    | symbol a =>
      have hid : s.id = t.id := eq_of_beq h
      simp only [strictEquals, BEq.beq, hid]
    | _ => rfl
  | _ => cases l <;> rfl

/-- A guard of the vocabulary has one answer for equal values: it looks at the kind, at a text, or
at the truth of the value. -/
theorem Guard.holds_eq_of_equals (g : Guard) {v w : Value} (h : v.equals w = true) :
    g.holds v = g.holds w := by
  have hkind := Value.kind_eq_of_equals h
  cases g with
  | isTruthy => exact Value.isTruthy_eq_of_equals h
  | isNonEmptyString => simp only [holds, Value.text?_eq_of_equals h]
  -- all others ask about the kind alone
  | _ => simp only [holds, Value.isNullish, Value.isObjectLike, hkind]

end Casewise
