import Casewise.Json
import Casewise.OrderedMap

/-!
# Parts of JSON data

JSON data is a part of other data if it can be made from it by leaving something out, at any depth:
items at the end of an array, members of an object. Scalars have no parts but themselves; numbers
are compared as doubles.

* `Json.PartOf` — `j.PartOf k`: the data `j` is a part of `k`.
* `Json.partOf_null_iff` and the lemmas after it — what `j` is a part of, constructor by
  constructor: everything in `j` is found at the same place in `k`, where it is a part again.
* `Json.PartOf.trans` — a part of a part is a part.
-/

namespace Casewise.Json

/-- The first data are a part of the second: they are equal scalars of one kind; or arrays, the
second of which is at least as long and has each item of the first as a part at its position; or
objects, the second of which has every key of the first and has the member under it as a part. -/
inductive PartOf : Json → Json → Prop
  | null : PartOf .null .null
  | bool (b : Bool) : PartOf (.bool b) (.bool b)
  | number {m n : JsonNumber} (h : m.toBinary64.equals n.toBinary64 = true) :
    PartOf (.number m) (.number n)
  | string (s : String) : PartOf (.string s) (.string s)
  | array {js ks : List Json} (hlength : js.length ≤ ks.length)
    (hitems : ∀ (i : Nat) j k, js[i]? = some j → ks[i]? = some k → PartOf j k) :
    PartOf (.array js) (.array ks)
  | object {ms ns : List (String × Json)}
    (hkeys : ∀ key, OrderedMap.contains ms key = true → OrderedMap.contains ns key = true)
    (hmembers : ∀ key j k, OrderedMap.get? ms key = some j → OrderedMap.get? ns key = some k →
      PartOf j k) :
    PartOf (.object ms) (.object ns)

variable {k : Json}

/-- Null is a part of null alone. -/
theorem partOf_null_iff : PartOf .null k ↔ k = .null := by
  refine ⟨?_, ?_⟩
  · rintro ⟨⟩
    rfl
  · rintro rfl
    exact .null

/-- A Boolean is a part of itself alone. -/
theorem partOf_bool_iff {b : Bool} : PartOf (.bool b) k ↔ k = .bool b := by
  refine ⟨?_, ?_⟩
  · rintro ⟨⟩
    rfl
  · rintro rfl
    exact .bool b

/-- A number is a part of the numbers that are the same double, however they are written. -/
theorem partOf_number_iff {m : JsonNumber} :
    PartOf (.number m) k ↔ ∃ n, k = .number n ∧ m.toBinary64.equals n.toBinary64 = true := by
  refine ⟨fun h => ?_, ?_⟩
  · cases h with
    | number h => exact ⟨_, rfl, h⟩
  · rintro ⟨n, rfl, h⟩
    exact .number h

/-- A string is a part of itself alone. -/
theorem partOf_string_iff {s : String} : PartOf (.string s) k ↔ k = .string s := by
  refine ⟨?_, ?_⟩
  · rintro ⟨⟩
    rfl
  · rintro rfl
    exact .string s

/-- An array is a part of the arrays that have, at each of its positions, something that its item is
a part of. Lengths need not be compared: a list that is too short has nothing at some position. -/
theorem partOf_array_iff {js : List Json} :
    PartOf (.array js) k ↔ ∃ ks, k = .array ks ∧
      ∀ (i : Nat) j, js[i]? = some j → ∃ k, ks[i]? = some k ∧ j.PartOf k := by
  refine ⟨fun h => ?_, ?_⟩
  · cases h with
    | @array _ ks hlength hitems =>
      refine ⟨ks, rfl, fun i j hj => ?_⟩
      -- a position of the shorter list is one of the longer list
      have hi : i < ks.length := Nat.lt_of_lt_of_le (List.getElem?_eq_some_iff.1 hj).1 hlength
      have hk : ks[i]? = some ks[i] := List.getElem?_eq_getElem hi
      exact ⟨ks[i], hk, hitems i j _ hj hk⟩
  · rintro ⟨ks, rfl, h⟩
    refine .array (Nat.not_lt.1 fun hlength => ?_) fun i j k hj hk => ?_
    · -- a list that is too short has nothing at the first position behind its end
      obtain ⟨k, hk, -⟩ := h ks.length _ (List.getElem?_eq_getElem hlength)
      rw [List.getElem?_eq_none (Nat.le_refl _)] at hk
      cases hk
    · obtain ⟨k', hk', hpart⟩ := h i j hj
      cases hk.symm.trans hk'
      exact hpart

/-- An object is a part of the objects that have, under each of its keys, something that its member
is a part of. -/
theorem partOf_object_iff {ms : List (String × Json)} :
    PartOf (.object ms) k ↔ ∃ ns, k = .object ns ∧
      ∀ key j, OrderedMap.get? ms key = some j →
        ∃ k, OrderedMap.get? ns key = some k ∧ j.PartOf k := by
  refine ⟨fun h => ?_, ?_⟩
  · cases h with
    | @object _ ns hkeys hmembers =>
      refine ⟨ns, rfl, fun key j hj => ?_⟩
      have hcontains : OrderedMap.contains ns key = true :=
        hkeys key (Option.isSome_iff_exists.2 ⟨j, hj⟩)
      obtain ⟨k, hk⟩ := Option.isSome_iff_exists.1 hcontains
      exact ⟨k, hk, hmembers key j k hj hk⟩
  · rintro ⟨ns, rfl, h⟩
    refine .object (fun key hkey => ?_) fun key j k hj hk => ?_
    · obtain ⟨j, hj⟩ := Option.isSome_iff_exists.1 hkey
      -- that a key is there follows from the member that is found under it
      obtain ⟨k, hk, -⟩ := h key j hj
      exact Option.isSome_iff_exists.2 ⟨k, hk⟩
    · obtain ⟨k', hk', hpart⟩ := h key j hj
      cases hk.symm.trans hk'
      exact hpart

/-- A part of a part is a part. -/
theorem PartOf.trans {a b c : Json} (hab : a.PartOf b) (hbc : b.PartOf c) : a.PartOf c := by
  induction hab generalizing c with
  | null => exact hbc
  | bool => exact hbc
  | string => exact hbc
  | number h =>
    obtain ⟨n, rfl, h'⟩ := partOf_number_iff.1 hbc
    exact .number (Binary64.equals_trans h h')
  | array hlength hitems ih =>
    obtain ⟨ls, rfl, hls⟩ := partOf_array_iff.1 hbc
    obtain ⟨ks, hks, hparts⟩ := partOf_array_iff.1 (.array hlength hitems)
    cases hks
    refine partOf_array_iff.2 ⟨ls, rfl, fun i j hj => ?_⟩
    -- the item of `a` is found in `b`, and what is found there in `c`
    obtain ⟨k, hk, -⟩ := hparts i j hj
    obtain ⟨l, hl, hkl⟩ := hls i k hk
    exact ⟨l, hl, ih i j k hj hk hkl⟩
  | object hkeys hmembers ih =>
    obtain ⟨ls, rfl, hls⟩ := partOf_object_iff.1 hbc
    obtain ⟨ns, hns, hparts⟩ := partOf_object_iff.1 (.object hkeys hmembers)
    cases hns
    refine partOf_object_iff.2 ⟨ls, rfl, fun key j hj => ?_⟩
    -- likewise member by member, the key leading from `a` through `b` to `c`
    obtain ⟨k, hk, -⟩ := hparts key j hj
    obtain ⟨l, hl, hkl⟩ := hls key k hk
    exact ⟨l, hl, ih key j k hj hk hkl⟩

end Casewise.Json
