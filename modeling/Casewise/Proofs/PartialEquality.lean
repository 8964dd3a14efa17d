import Casewise.Json.Part
import Casewise.Proofs.Answers
import Casewise.Proofs.EqualValues
import Casewise.Rules.WellFormed

/-!
# Partial equality with data is being a part of them

JSON data are turned into a pattern in one way and into a value in another. A pattern made from data
accepts the values of just those data that it is a part of: the two ways agree on the numbers, on
the order of items and on the keys of objects, and what a pattern makes of missing properties does
not matter, since no data denote `undefined`.

* `Pattern.admits_ofJson_undefined` — the pattern of data does not admit `undefined`, so that a
  missing property fails under either treatment (`MissingFields.holdsAt_ofJson_iff`).
* `Json.property?_toValue` — the properties of the value that an object denotes.
* `Pattern.admits_ofJson_toValue_iff` — the pattern of `j` admits the value of `k` exactly if `j` is
  a part of `k`, by induction over `j`.
* `Json.WellFormed.partOf_self` — data are a part of themselves. This is where it matters that no
  number is a NaN.
* `PatternSpec.equals_accepts_iff_partOf` — the same for declared patterns as they are compiled, and
  that this makes a preorder.
-/

namespace Casewise

variable {ε : Type}

/-! ### Missing properties -/

namespace Pattern

/-- The pattern of data does not admit `undefined`. -/
theorem admits_ofJson_undefined (missing : MissingFields) (j : Json) :
    (ofJson j : Pattern ε).admits missing .undefined = false := by
  cases j <;> rfl

end Pattern

/-- A property passes the pattern of data only if it is there, whatever the treatment. -/
theorem MissingFields.holdsAt_ofJson_iff (missing : MissingFields) (v : Value) (key : PropertyKey)
    (j : Json) :
    missing.holdsAt v key ((Pattern.ofJson j : Pattern ε).admits missing) = true ↔
      ∃ w, v.property? key = some w ∧ (Pattern.ofJson j : Pattern ε).admits missing w = true := by
  unfold holdsAt
  cases v.property? key with
  | some w => simp
  | none =>
    cases missing with
    | reject => simp
    | undefined =>
      -- asked as `undefined`, which the pattern of no data admits
      simp [Pattern.admits_ofJson_undefined]

/-! ### The value of data -/

namespace Json

/-- An object denotes a record with the values of its members under their keys. -/
theorem property?_toValue {ns : List (String × Json)} (hd : OrderedMap.Distinct ns) (key : String) :
    (object ns).toValue.property? (.string key) = (OrderedMap.get? ns key).map toValue := by
  have hkey : ∀ k k' : String, (PropertyKey.string k == .string k') = (k == k') := fun _ _ => rfl
  -- since the keys are distinct, inserting the members in turn keeps them as they are
  have hprops : OrderedMap.Distinct (ns.map fun m => (PropertyKey.string m.1, m.2.toValue)) :=
    (OrderedMap.distinct_map_iff hkey toValue ns).2 hd
  calc (object ns).toValue.property? (.string key)
      = OrderedMap.get? (OrderedMap.ofList (toProps ns)) (.string key) := rfl
    _ = OrderedMap.get? (ns.map fun m => (PropertyKey.string m.1, m.2.toValue)) (.string key) := by
        rw [toProps_eq_map, OrderedMap.ofList_of_distinct hprops]
    _ = (OrderedMap.get? ns key).map toValue := OrderedMap.get?_map hkey toValue ns key

end Json

/-! ### Parts -/

namespace Pattern

variable {missing : MissingFields}

/-- The pattern of a list asks each item for its counterpart at the same position. -/
theorem admits_ofJson_array_iff (js ks : List Json) :
    (ofJson (.array js) : Pattern ε).admits missing (Json.array ks).toValue = true ↔
      ∀ (i : Nat) j, js[i]? = some j →
        ∃ k, ks[i]? = some k ∧ (ofJson j : Pattern ε).admits missing k.toValue = true := by
  rw [ofJson, ofJsonItems_eq_map, admits_elements_iff, Json.toValue, Json.toValues_eq_map]
  refine ⟨?_, fun h => ?_⟩
  · rintro ⟨vs, ⟨⟩, h⟩ i j hi
    obtain ⟨w, hw, hadmits⟩ := h i (ofJson j) (by rw [List.getElem?_map, hi, Option.map_some])
    rw [List.getElem?_map, Option.map_eq_some_iff] at hw
    obtain ⟨k, hk, rfl⟩ := hw
    exact ⟨k, hk, hadmits⟩
  · refine ⟨ks.map Json.toValue, rfl, fun i p hi => ?_⟩
    rw [List.getElem?_map, Option.map_eq_some_iff] at hi
    obtain ⟨j, hi, rfl⟩ := hi
    obtain ⟨k, hk, hadmits⟩ := h i j hi
    exact ⟨k.toValue, by rw [List.getElem?_map, hk, Option.map_some], hadmits⟩

/-- The pattern of an object asks each member for its counterpart under the same key. -/
theorem admits_ofJson_object_iff {ms ns : List (String × Json)} (hms : OrderedMap.Distinct ms)
    (hns : OrderedMap.Distinct ns) :
    (ofJson (.object ms) : Pattern ε).admits missing (Json.object ns).toValue = true ↔
      ∀ key j, OrderedMap.get? ms key = some j → ∃ k, OrderedMap.get? ns key = some k ∧
        (ofJson j : Pattern ε).admits missing k.toValue = true := by
  rw [ofJson, ofJsonMembers_eq_map, admits_fields_iff]
  -- what is asked of one property
  have hmember : ∀ key j, missing.holdsAt (Json.object ns).toValue (.string key)
      ((ofJson j : Pattern ε).admits missing) = true ↔ ∃ k, OrderedMap.get? ns key = some k ∧
        (ofJson j : Pattern ε).admits missing k.toValue = true := by
    intro key j
    rw [MissingFields.holdsAt_ofJson_iff, Json.property?_toValue hns]
    refine ⟨?_, ?_⟩
    · rintro ⟨w, hw, hadmits⟩
      obtain ⟨k, hk, rfl⟩ := Option.map_eq_some_iff.1 hw
      exact ⟨k, hk, hadmits⟩
    · rintro ⟨k, hk, hadmits⟩
      exact ⟨k.toValue, by rw [hk, Option.map_some], hadmits⟩
  refine ⟨?_, fun h => ?_⟩
  · rintro ⟨-, h⟩ key j hj
    have hmem : (key, j) ∈ ms := (OrderedMap.get?_eq_some_iff_mem hms).1 hj
    exact (hmember key j).1 (h _ (List.mem_map_of_mem hmem))
  · refine ⟨rfl, List.forall_mem_map.2 fun m hm => (hmember m.1 m.2).2 ?_⟩
    exact h m.1 m.2 (OrderedMap.get?_of_mem hms hm)

/-- **The pattern of data accepts the values of what they are a part of.** -/
theorem admits_ofJson_toValue_iff {j k : Json} (hj : j.WellFormed) (hk : k.WellFormed) :
    (ofJson j : Pattern ε).admits missing k.toValue = true ↔ j.PartOf k := by
  induction j generalizing k with
  | null =>
    rw [ofJson, admits_literal, Json.partOf_null_iff]
    cases k <;> simp [Literal.strictEquals, Json.toValue]
  | bool b =>
    rw [ofJson, admits_literal, Json.partOf_bool_iff]
    cases k <;> simp [Literal.strictEquals, Json.toValue, eq_comm (a := b)]
  | number m =>
    rw [ofJson, admits_literal, Json.partOf_number_iff]
    cases k <;> simp [Literal.strictEquals, Json.toValue]
  | string s =>
    rw [ofJson, admits_literal, Json.partOf_string_iff]
    cases k <;> simp [Literal.strictEquals, Json.toValue, eq_comm (a := s)]
  | array js ih =>
    rw [Json.partOf_array_iff]
    cases k with
    | array ks =>
      rw [admits_ofJson_array_iff]
      -- the two sides ask for the same positions, so only the items are left
      have hpart : ∀ (i : Nat) j k, js[i]? = some j → ks[i]? = some k →
          ((ofJson j : Pattern ε).admits missing k.toValue = true ↔ j.PartOf k) := by
        intro i j k hi hki
        have hmem := List.mem_of_getElem? hi
        exact ih j hmem (Json.wellFormedEach_iff.1 hj j hmem)
          (Json.wellFormedEach_iff.1 hk k (List.mem_of_getElem? hki))
      refine ⟨fun h => ?_, ?_⟩
      · refine ⟨ks, rfl, fun i j hi => ?_⟩
        obtain ⟨k, hki, hadmits⟩ := h i j hi
        exact ⟨k, hki, (hpart i j k hi hki).1 hadmits⟩
      · rintro ⟨_, ⟨⟩, h⟩ i j hi
        obtain ⟨k, hki, hjk⟩ := h i j hi
        exact ⟨k, hki, (hpart i j k hi hki).2 hjk⟩
    -- no other data denote a list
    | _ => simp [ofJson, admits_elements_iff, Json.toValue, Value.items?]
  | object ms ih =>
    rw [Json.partOf_object_iff]
    cases k with
    | object ns =>
      rw [admits_ofJson_object_iff hj.1 hk.1]
      -- and here for the same keys
      have hpart : ∀ key j k, OrderedMap.get? ms key = some j → OrderedMap.get? ns key = some k →
          ((ofJson j : Pattern ε).admits missing k.toValue = true ↔ j.PartOf k) := by
        intro key j k hm hn
        have hmem := (OrderedMap.get?_eq_some_iff_mem hj.1).1 hm
        exact ih _ hmem (Json.wellFormedMembers_iff.1 hj.2 _ hmem)
          (Json.wellFormedMembers_iff.1 hk.2 _ ((OrderedMap.get?_eq_some_iff_mem hk.1).1 hn))
      refine ⟨fun h => ?_, ?_⟩
      · refine ⟨ns, rfl, fun key j hm => ?_⟩
        obtain ⟨k, hn, hadmits⟩ := h key j hm
        exact ⟨k, hn, (hpart key j k hm hn).1 hadmits⟩
      · rintro ⟨_, ⟨⟩, h⟩ key j hm
        obtain ⟨k, hn, hjk⟩ := h key j hm
        exact ⟨k, hn, (hpart key j k hm hn).2 hjk⟩
    -- no other data denote something with properties
    | _ => simp [ofJson, admits_fields_iff, Json.toValue, Value.isObjectLike, Value.kind]

end Pattern

namespace Json

/-- The double of a number in well-formed data is no NaN. -/
theorem WellFormed.isNaN_toBinary64 {n : JsonNumber} (h : (number n).WellFormed) :
    n.toBinary64.isNaN = false := by
  cases n with
  | int n => exact Binary64.isNaN_ofInt n
  | real x => exact Binary64.isNaN_of_isFinite h

/-- Data are a part of themselves. -/
theorem WellFormed.partOf_self {j : Json} (h : j.WellFormed) : j.PartOf j := by
  induction j with
  | null => exact .null
  | bool b => exact .bool b
  | number n =>
    -- the only number that is not equal to itself is NaN
    have hself : n.toBinary64.equals n.toBinary64 = true := by
      rw [Binary64.equals_self, h.isNaN_toBinary64, Bool.not_false]
    exact .number hself
  | string s => exact .string s
  | array js ih =>
    have hitems := wellFormedEach_iff.1 h
    refine partOf_array_iff.2 ⟨js, rfl, fun i j hj => ?_⟩
    have hmem := List.mem_of_getElem? hj
    exact ⟨j, hj, ih j hmem (hitems j hmem)⟩
  | object ms ih =>
    have hmembers := wellFormedMembers_iff.1 h.2
    refine partOf_object_iff.2 ⟨ms, rfl, fun key j hj => ?_⟩
    have hmem := (OrderedMap.get?_eq_some_iff_mem h.1).1 hj
    exact ⟨j, hj, ih _ hmem (hmembers _ hmem)⟩

end Json

namespace PatternSpec

/-- What a declared partial equality accepts, in its compiled form and under all options. -/
theorem accepts_equals_toValue_iff (o : MatchOptions) {j k : Json} (hj : j.WellFormed)
    (hk : k.WellFormed) :
    ((((equals j).toPattern : Pattern ε).compile o).accepts k.toValue).value = true ↔
      j.PartOf k := by
  rw [Pattern.value_accepts_compile, toPattern]
  exact Pattern.admits_ofJson_toValue_iff hj hk

/-- **A declared partial equality is a preorder.** Under all options, the pattern that is compiled
from `equals` with the data `j` accepts the value of the data `k` exactly if `j` is a part of `k`.
In particular it accepts the value of `j`; and if the pattern of `a` accepts the value of `b`, and
the pattern of `b` that of `c`, the pattern of `a` accepts the value of `c`. -/
theorem equals_accepts_iff_partOf :
    (∀ (o : MatchOptions) {j k : Json}, j.WellFormed → k.WellFormed →
      (((((equals j).toPattern : Pattern ε).compile o).accepts k.toValue).value = true ↔
        j.PartOf k)) ∧
    (∀ (o : MatchOptions) {j : Json}, j.WellFormed →
      ((((equals j).toPattern : Pattern ε).compile o).accepts j.toValue).value = true) ∧
    ∀ (o o' o'' : MatchOptions) {a b c : Json}, a.WellFormed → b.WellFormed → c.WellFormed →
      ((((equals a).toPattern : Pattern ε).compile o).accepts b.toValue).value = true →
      ((((equals b).toPattern : Pattern ε).compile o').accepts c.toValue).value = true →
      ((((equals a).toPattern : Pattern ε).compile o'').accepts c.toValue).value = true := by
  refine ⟨fun o j k => accepts_equals_toValue_iff o, ?_, ?_⟩
  · intro o j hj
    rw [accepts_equals_toValue_iff o hj hj]
    exact hj.partOf_self
  · intro o o' o'' a b c ha hb hc hab hbc
    rw [accepts_equals_toValue_iff _ ha hb] at hab
    rw [accepts_equals_toValue_iff _ hb hc] at hbc
    rw [accepts_equals_toValue_iff _ ha hc]
    -- what the options were has no part in it any more
    exact hab.trans hbc

/-- Three objects, each of which says more than the one before: the integer is written as a double,
a list is added, and the list gets longer and the object another key. -/
theorem equals_accepts_iff_partOf_of_growing :
    let a : Json := .object [("id", .number (.int 1))]
    let b : Json := .object [("tags", .array [.null]), ("id", .number (.real ⟨0x3ff0000000000000⟩))]
    let c : Json := .object
      [("id", .number (.int 1)), ("tags", .array [.null, .bool true]), ("name", .string "x")]
    a.PartOf b ∧ b.PartOf c ∧
      ((((equals c).toPattern : Pattern Unit).compile {}).accepts c.toValue).value = true ∧
      ((((equals a).toPattern : Pattern Unit).compile {}).accepts c.toValue).value = true := by
  intro a b c
  have ha : a.WellFormed := ⟨by decide, trivial, trivial⟩
  have hb : b.WellFormed := ⟨by decide, ⟨trivial, trivial⟩, rfl, trivial⟩
  have hc : c.WellFormed := ⟨by decide, trivial, ⟨trivial, trivial, trivial⟩, trivial, trivial⟩
  have hab :
      ((((equals a).toPattern : Pattern Unit).compile {}).accepts b.toValue).value = true := by
    decide
  have hbc :
      ((((equals b).toPattern : Pattern Unit).compile {}).accepts c.toValue).value = true := by
    decide
  obtain ⟨hiff, hself, htrans⟩ := equals_accepts_iff_partOf (ε := Unit)
  exact ⟨(hiff {} ha hb).1 hab, (hiff {} hb hc).1 hbc, hself {} hc,
    htrans {} {} {} ha hb hc hab hbc⟩

end PatternSpec

end Casewise
