import Casewise.Proofs.NestedInduction
import Casewise.Proofs.ValueEquality

/-!
# Equality of values is a partial equivalence

Equality of values is symmetric and transitive. What it lacks of an equivalence is reflexivity, and
it lacks it at the values that hold a NaN and nowhere else.

The parts of a compound are compared one by one: items by their position, properties by their key.
Each comparison is brought into one form, that at every place there is a part on neither side or
there are equal parts on both (`Value.equalsEach_iff`, `Value.equalsPairs_iff`,
`Value.equalsRecord_iff_of_distinct`); symmetry and reflexivity are then read off place by place, by
induction over the parts of the first value. Records are where the form is not the definition: their
comparison looks up the keys of the first record in the second one only, so the other direction
takes counting, and with it that the keys of a record are distinct. Transitivity needs no such thing
and holds of all values.

* `Value.equals_symm`, `Value.equals_trans`, `Value.equals_self_iff` — the three laws;
* `Value.equalsRecord_perm` — the order of insertion plays no part;
* `Value.equals_is_partial_equivalence` — all of it in one statement, literals included.
-/

namespace Casewise.Value

/-! ### Comparisons place by place -/

/-- Lists are compared place by place. -/
theorem equalsEach_iff {vs ws : List Value} :
    equalsEach vs ws = true ↔
      ∀ i : Nat, Option.Rel (fun v w => v.equals w = true) vs[i]? ws[i]? := by
  refine ⟨getElem?_rel_of_equalsEach, fun h => ?_⟩
  -- one direction is known; the other is by induction over both lists
  induction vs generalizing ws with
  | nil =>
    cases ws with
    | nil => rfl
    | cons w ws => cases h 0
  | cons v vs ih =>
    cases ws with
    | nil => cases h 0
    | cons w ws =>
      -- the first place compares the heads, the others compare the tails
      have hhead : v.equals w = true := by
        cases h 0 with
        | some hvw => exact hvw
      have htail : equalsEach vs ws = true := ih fun i => h (i + 1)
      rw [equalsEach, hhead, htail]
      rfl

/-- Maps are compared entry by entry, in the order of their entries. -/
theorem equalsPairs_iff {es fs : List (Value × Value)} :
    equalsPairs es fs = true ↔ ∀ i : Nat,
      Option.Rel (fun e f => e.1.equals f.1 = true ∧ e.2.equals f.2 = true) es[i]? fs[i]? := by
  induction es generalizing fs with
  | nil =>
    cases fs with
    | nil => exact ⟨fun _ _ => .none, fun _ => rfl⟩
    | cons f fs => exact ⟨fun h => (nomatch h), fun h => (nomatch h 0)⟩
  | cons e es ih =>
    cases fs with
    | nil => exact ⟨fun h => (nomatch h), fun h => (nomatch h 0)⟩
    | cons f fs =>
      rw [equalsPairs, Bool.and_eq_true, Bool.and_eq_true, ih]
      constructor
      · rintro ⟨hef, hrest⟩ i
        cases i with
        -- the first place is that of the heads
        | zero => exact .some hef
        | succ i => exact hrest i
      · intro h
        refine ⟨?_, fun i => h (i + 1)⟩
        cases h 0 with
        | some hef => exact hef

/-- Every entry of the first list is found, with an equal value, in the second. -/
theorem equalsProps_iff {ps qs : List (PropertyKey × Value)} :
    equalsProps ps qs = true ↔
      ∀ e ∈ ps, ∃ w, OrderedMap.get? qs e.1 = some w ∧ e.2.equals w = true := by
  induction ps with
  | nil => exact ⟨fun _ _ h => (nomatch h), fun _ => rfl⟩
  | cons e ps ih =>
    rw [equalsProps, Bool.and_eq_true, ih, List.forall_mem_cons]
    refine and_congr_left fun _ => ?_
    cases OrderedMap.get? qs e.1 with
    | none => simp
    | some w => simp

/-- **Records are compared key by key.** If each has its keys once, they are equal exactly if they
are of one class and under every key there are equal values in both or there is none in either. -/
theorem equalsRecord_iff_of_distinct {r s : Record Value} (hr : OrderedMap.Distinct r.props)
    (hs : OrderedMap.Distinct s.props) :
    equalsRecord r s = true ↔ r.className = s.className ∧
      ∀ key, Option.Rel (fun v w => v.equals w = true) (r.get? key) (s.get? key) := by
  constructor
  · intro h
    exact ⟨(equalsRecord_iff.1 h).1, get?_rel_of_equalsRecord hr h⟩
  · rintro ⟨hclass, hrel⟩
    -- the same keys occur in both, so neither record is larger than the other
    have hsize : r.size = s.size := by
      refine OrderedMap.length_eq_of_contains hr hs fun key => ?_
      have hkey := hrel key
      unfold Record.get? at hkey
      unfold OrderedMap.contains
      generalize OrderedMap.get? r.props key = a, OrderedMap.get? s.props key = b at hkey ⊢
      cases hkey <;> rfl
    -- what the first record has under a key, the second has something equal to
    have hprops : equalsProps r.props s.props = true := by
      refine equalsProps_iff.2 fun e he => ?_
      have hkey := hrel e.1
      have hget : r.get? e.1 = some e.2 := OrderedMap.get?_of_mem hr he
      rw [hget] at hkey
      generalize hw : s.get? e.1 = b at hkey
      cases hkey with
      | some hvw => exact ⟨_, hw, hvw⟩
    exact equalsRecord_iff.2 ⟨hclass, hsize, hprops⟩

/-- The same of well-formed records, of which distinct keys are a part. -/
theorem equalsRecord_iff_get? {r s : Record Value} (hr : WellFormedRecord r)
    (hs : WellFormedRecord s) :
    equalsRecord r s = true ↔ r.className = s.className ∧
      ∀ key, Option.Rel (fun v w => v.equals w = true) (r.get? key) (s.get? key) :=
  equalsRecord_iff_of_distinct (wellFormedRecord_iff.1 hr).1 (wellFormedRecord_iff.1 hs).1

/-! ### Symmetry -/

/-- A place is turned around if what stands at it may be turned around. -/
private theorem rel_symm {α : Type} {R : α → α → Prop} {a b : Option α} (h : Option.Rel R a b)
    (hsymm : ∀ x y, a = some x → b = some y → R x y → R y x) : Option.Rel R b a := by
  cases h with
  | none => exact .none
  | some hxy => exact .some (hsymm _ _ rfl rfl hxy)

/-- A record is equal to one that is equal to it, if the values of its properties can be turned
around. -/
private theorem equalsRecord_symm {r s : Record Value} (hr : WellFormedRecord r)
    (hs : WellFormedRecord s) (h : equalsRecord r s = true)
    (hsymm : ∀ v ∈ r.props.map Prod.snd, ∀ w : Value, w.WellFormed → v.equals w = true →
      w.equals v = true) : equalsRecord s r = true := by
  obtain ⟨hclass, hrel⟩ := (equalsRecord_iff_get? hr hs).1 h
  refine (equalsRecord_iff_get? hs hr).2 ⟨hclass.symm, fun key => ?_⟩
  refine rel_symm (hrel key) fun v w hv hw hvw => ?_
  obtain ⟨e, he, -, rfl⟩ := OrderedMap.exists_mem_of_get? hv
  obtain ⟨f, hf, -, rfl⟩ := OrderedMap.exists_mem_of_get? hw
  have hf' : f.2.WellFormed := (wellFormedRecord_iff.1 hs).2 f hf
  exact hsymm e.2 (List.mem_map_of_mem he) f.2 hf' hvw

/-- Items can be turned around if each of them can. -/
private theorem equalsEach_symm {vs ws : List Value} (hws : ∀ w ∈ ws, w.WellFormed)
    (h : equalsEach vs ws = true)
    (hsymm : ∀ v ∈ vs, ∀ w : Value, w.WellFormed → v.equals w = true → w.equals v = true) :
    equalsEach ws vs = true := by
  refine equalsEach_iff.2 fun i => rel_symm (equalsEach_iff.1 h i) fun v w hv hw hvw => ?_
  exact hsymm v (List.mem_of_getElem? hv) w (hws w (List.mem_of_getElem? hw)) hvw

/-- **Symmetry.** -/
theorem equals_symm {v w : Value} (hv : v.WellFormed) (hw : w.WellFormed)
    (h : v.equals w = true) : w.equals v = true := by
  induction v using partInduction generalizing w with
  | step v ih =>
    -- the parts of a well-formed value are well formed, so they can be turned around
    have hparts : ∀ p ∈ v.parts, ∀ q : Value, q.WellFormed → p.equals q = true →
        q.equals p = true := fun p hp q hq hpq => ih p hp (hv.part hp) hq hpq
    clear ih
    cases h using equalsCases with
    -- numbers, symbols and functions have an equality of their own
    | number x y h => exact (Binary64.equals_comm y x).trans h
    | symbol s t h => exact (BEq.symm h : (t == s) = true)
    | function f g h => exact (BEq.symm h : (g.id == f.id) = true)
    | array vs ws h => exact equalsEach_symm (wellFormedEach_iff.1 hw) h hparts
    | set vs ws h => exact equalsEach_symm (wellFormedEach_iff.1 hw) h hparts
    | object r s h => exact equalsRecord_symm hv hw h hparts
    | error r s h => exact equalsRecord_symm hv hw h hparts
    | map es fs h =>
      refine equalsPairs_iff.2 fun i => rel_symm (equalsPairs_iff.1 h i) fun e f he hf hef => ?_
      obtain ⟨hk, hx⟩ := mem_parts_map (List.mem_of_getElem? he)
      obtain ⟨hk', hx'⟩ := wellFormedPairs_iff.1 hw f (List.mem_of_getElem? hf)
      exact ⟨hparts e.1 hk f.1 hk' hef.1, hparts e.2 hx f.2 hx' hef.2⟩
    | undefined => rfl
    | null => rfl
    | bool b h => exact h
    | bigint n h => exact h
    | string s h => exact h
    | date i h => exact h
    | regexp source h => exact h
    | bytes content h => exact h

/-! ### Transitivity -/

/-- Two places with parts, or without, can be put in a row if the parts can. -/
private theorem rel_trans {α : Type} {R : α → α → Prop} {a b c : Option α}
    (hab : Option.Rel R a b) (hbc : Option.Rel R b c)
    (htrans : ∀ x y z, a = some x → R x y → R y z → R x z) : Option.Rel R a c := by
  cases hab with
  | none => exact hbc
  | some hxy =>
    cases hbc with
    | some hyz => exact .some (htrans _ _ _ rfl hxy hyz)

/-- Items can be put in a row if each of them can. -/
private theorem equalsEach_trans {us vs ws : List Value} (huv : equalsEach us vs = true)
    (hvw : equalsEach vs ws = true)
    (htrans : ∀ u ∈ us, ∀ v w : Value, u.equals v = true → v.equals w = true →
      u.equals w = true) : equalsEach us ws = true := by
  refine equalsEach_iff.2 fun i => ?_
  refine rel_trans (equalsEach_iff.1 huv i) (equalsEach_iff.1 hvw i) fun u v w hu huv hvw => ?_
  exact htrans u (List.mem_of_getElem? hu) v w huv hvw

/-- What the first record has is found in the second, and what is found there in the third. -/
private theorem equalsRecord_trans {q r s : Record Value} (hqr : equalsRecord q r = true)
    (hrs : equalsRecord r s = true)
    (htrans : ∀ u ∈ q.props.map Prod.snd, ∀ v w : Value, u.equals v = true →
      v.equals w = true → u.equals w = true) : equalsRecord q s = true := by
  obtain ⟨hclass, hsize, hprops⟩ := equalsRecord_iff.1 hqr
  obtain ⟨hclass', hsize', hprops'⟩ := equalsRecord_iff.1 hrs
  refine equalsRecord_iff.2 ⟨hclass.trans hclass', hsize.trans hsize', ?_⟩
  refine equalsProps_iff.2 fun e he => ?_
  obtain ⟨v, hv, hev⟩ := equalsProps_iff.1 hprops e he
  obtain ⟨w, hw, hvw⟩ := exists_get?_of_equalsProps hprops' hv
  exact ⟨w, hw, htrans e.2 (List.mem_map_of_mem he) v w hev hvw⟩

/-- **Transitivity.** -/
theorem equals_trans {u v w : Value} (huv : u.equals v = true) (hvw : v.equals w = true) :
    u.equals w = true := by
  induction u using partInduction generalizing v w with
  | step u ih =>
    -- nothing is asked of the values here, so the hypothesis is used as it stands
    have hparts : ∀ p ∈ u.parts, ∀ q r : Value, p.equals q = true → q.equals r = true →
        p.equals r = true := fun p hp q r hpq hqr => ih p hp hpq hqr
    clear ih
    cases huv using equalsCases with
    | number x y h =>
      cases w with
      | number z => exact Binary64.equals_trans h hvw
      | _ => cases hvw
    | symbol s t h =>
      cases w with
      | symbol r =>
        have htr : (t == r) = true := hvw
        exact (BEq.trans h htr : (s == r) = true)
      | _ => cases hvw
    | function f g h =>
      cases w with
      | function k =>
        have hgk : (g.id == k.id) = true := hvw
        exact (BEq.trans h hgk : (f.id == k.id) = true)
      | _ => cases hvw
    | array us vs h =>
      cases w with
      | array ws => exact equalsEach_trans h hvw hparts
      | _ => cases hvw
    | set us vs h =>
      cases w with
      | set ws => exact equalsEach_trans h hvw hparts
      | _ => cases hvw
    | object q r h =>
      cases w with
      | object s => exact equalsRecord_trans h hvw hparts
      | _ => cases hvw
    | error q r h =>
      cases w with
      | error s => exact equalsRecord_trans h hvw hparts
      | _ => cases hvw
    | map ds es h =>
      cases w with
      | map fs =>
        refine equalsPairs_iff.2 fun i => ?_
        refine rel_trans (equalsPairs_iff.1 h i) (equalsPairs_iff.1 hvw i) ?_
        rintro d e f hd ⟨hk, hx⟩ ⟨hk', hx'⟩
        obtain ⟨hdk, hdx⟩ := mem_parts_map (List.mem_of_getElem? hd)
        exact ⟨hparts d.1 hdk e.1 f.1 hk hk', hparts d.2 hdx e.2 f.2 hx hx'⟩
      | _ => cases hvw
    -- the remaining kinds are equal only if they are the same
    | _ => exact hvw

/-! ### Reflexivity -/

/-- A place is related to itself exactly if what stands at it is. -/
private theorem rel_self_iff {α : Type} {R : α → α → Prop} {a : Option α} :
    Option.Rel R a a ↔ ∀ x, a = some x → R x x := by
  constructor
  · rintro h x rfl
    cases h with
    | some hx => exact hx
  · intro h
    cases a with
    | none => exact .none
    | some x => exact .some (h x rfl)

/-- A list is equal to itself exactly if its items are. -/
private theorem equalsEach_self_iff {vs : List Value} :
    equalsEach vs vs = true ↔ ∀ v ∈ vs, v.equals v = true := by
  rw [equalsEach_iff]
  constructor
  -- an item stands somewhere, and there it is compared with itself
  · intro h v hv
    obtain ⟨i, hi⟩ := List.mem_iff_getElem?.1 hv
    exact rel_self_iff.1 (h i) v hi
  · exact fun h i => rel_self_iff.2 fun v hv => h v (List.mem_of_getElem? hv)

/-- A record with distinct keys is equal to itself exactly if its values are. -/
theorem equalsRecord_self_iff {r : Record Value} (hr : OrderedMap.Distinct r.props) :
    equalsRecord r r = true ↔ ∀ v ∈ r.props.map Prod.snd, v.equals v = true := by
  rw [equalsRecord_iff_of_distinct hr hr, List.forall_mem_map]
  constructor
  · rintro ⟨-, h⟩ e he
    have hget : r.get? e.1 = some e.2 := OrderedMap.get?_of_mem hr he
    exact rel_self_iff.1 (h e.1) e.2 hget
  · refine fun h => ⟨rfl, fun key => rel_self_iff.2 fun v hv => ?_⟩
    obtain ⟨e, he, -, rfl⟩ := OrderedMap.exists_mem_of_get? hv
    exact h e he

/-- A map is equal to itself exactly if its keys and its values are. -/
private theorem equalsPairs_self_iff {es : List (Value × Value)} :
    equalsPairs es es = true ↔ ∀ v ∈ (map es).parts, v.equals v = true := by
  rw [equalsPairs_iff]
  constructor
  · intro h v hv
    obtain ⟨e, he, hv⟩ := List.mem_flatMap.1 hv
    obtain ⟨i, hi⟩ := List.mem_iff_getElem?.1 he
    obtain ⟨hk, hx⟩ := rel_self_iff.1 (h i) e hi
    rcases List.mem_cons.1 hv with rfl | hv
    · exact hk
    · rw [List.mem_singleton.1 hv]
      exact hx
  · intro h i
    refine rel_self_iff.2 fun e he => ?_
    obtain ⟨hk, hx⟩ := mem_parts_map (List.mem_of_getElem? he)
    exact ⟨h e.1 hk, h e.2 hx⟩

/-- A value is equal to itself exactly if it is no NaN and its parts are equal to themselves. -/
theorem equals_self_iff_parts {v : Value} (hv : v.WellFormed) :
    v.equals v = true ↔
      (∀ x, v = .number x → x.isNaN = false) ∧ ∀ p ∈ v.parts, p.equals p = true := by
  cases v with
  -- the one kind where something may be wrong with the value itself
  | number x =>
    have hself : (Value.number x).equals (.number x) = !x.isNaN := Binary64.equals_self x
    rw [hself, Bool.not_eq_true']
    constructor
    · intro hx
      refine ⟨?_, fun _ hp => nomatch hp⟩
      rintro y ⟨⟩
      exact hx
    · exact fun h => h.1 x rfl
  | array vs => exact equalsEach_self_iff.trans (and_iff_right fun _ hx => nomatch hx).symm
  | set vs => exact equalsEach_self_iff.trans (and_iff_right fun _ hx => nomatch hx).symm
  | object r =>
    have hd := (wellFormedRecord_iff.1 hv).1
    exact (equalsRecord_self_iff hd).trans (and_iff_right fun _ hx => nomatch hx).symm
  | error r =>
    have hd := (wellFormedRecord_iff.1 hv).1
    exact (equalsRecord_self_iff hd).trans (and_iff_right fun _ hx => nomatch hx).symm
  | map es => exact equalsPairs_self_iff.trans (and_iff_right fun _ hx => nomatch hx).symm
  | undefined => exact iff_of_true rfl ⟨fun _ hx => (nomatch hx), fun _ hp => nomatch hp⟩
  | null => exact iff_of_true rfl ⟨fun _ hx => (nomatch hx), fun _ hp => nomatch hp⟩
  | symbol s =>
    have hself : (s == s) = true := BEq.rfl
    exact iff_of_true hself ⟨fun _ hx => (nomatch hx), fun _ hp => nomatch hp⟩
  | function f =>
    have hself : (f.id == f.id) = true := BEq.rfl
    exact iff_of_true hself ⟨fun _ hx => (nomatch hx), fun _ hp => nomatch hp⟩
  | _ => exact iff_of_true (beq_self_eq_true _) ⟨fun _ hx => (nomatch hx), fun _ hp => nomatch hp⟩

/-- **Reflexivity fails because of NaN alone.** -/
theorem equals_self_iff {v : Value} (hv : v.WellFormed) : v.equals v = true ↔ ¬v.HoldsNaN := by
  induction v using partInduction with
  | step v ih =>
    have hparts : (∀ p ∈ v.parts, p.equals p = true) ↔ ∀ p ∈ v.parts, ¬p.HoldsNaN :=
      forall₂_congr fun p hp => ih p hp (hv.part hp)
    rw [equals_self_iff_parts hv, hparts, holdsNaN_iff, not_or]
    -- a NaN is either the value itself or occurs in one of its parts
    refine and_congr ?_ ?_
    · constructor
      · rintro h ⟨x, hx, rfl⟩
        rw [h x rfl] at hx
        cases hx
      · intro h x hx
        exact Bool.eq_false_iff.2 fun hnan => h ⟨x, hnan, hx⟩
    · exact ⟨fun h ⟨p, hp, hnan⟩ => h p hp hnan, fun h p hp hnan => h ⟨p, hp, hnan⟩⟩

/-! ### The order of insertion -/

/-- Records with the same entries in another order are equal to the same records, and the same
records are equal to them. -/
theorem equalsRecord_perm {r s : Record Value} (hr : OrderedMap.Distinct r.props)
    (hclass : r.className = s.className) (hperm : r.props.Perm s.props) (q : Record Value) :
    equalsRecord r q = equalsRecord s q ∧ equalsRecord q r = equalsRecord q s := by
  have hsize : r.size = s.size := hperm.length_eq
  have hleft : equalsProps r.props q.props = true ↔ equalsProps s.props q.props = true := by
    rw [equalsProps_iff, equalsProps_iff]
    exact forall_congr' fun e => imp_congr_left hperm.mem_iff
  have hright : equalsProps q.props r.props = true ↔ equalsProps q.props s.props = true := by
    rw [equalsProps_iff, equalsProps_iff]
    exact forall₂_congr fun e _ => by rw [OrderedMap.get?_perm hr hperm]
  constructor
  · rw [Bool.eq_iff_iff, equalsRecord_iff, equalsRecord_iff, hclass, hsize, hleft]
  · rw [Bool.eq_iff_iff, equalsRecord_iff, equalsRecord_iff, hclass, hsize, hright]

/-! ### The laws together -/

/-- **Equality is a partial equivalence that only NaN keeps from being an equivalence.** It is
symmetric and transitive, and a value differs from itself exactly if a NaN occurs in it. Objects,
and errors like them, are equal if they have one class and the same keys with equal values, and it
does not matter in which order their properties were inserted. A literal is strictly equal to a
value if it is equal to it as a value. -/
theorem equals_is_partial_equivalence :
    (∀ v w : Value, v.WellFormed → w.WellFormed → (v == w) = (w == v)) ∧
    (∀ u v w : Value, (u == v) = true → (v == w) = true → (u == w) = true) ∧
    (∀ v : Value, v.WellFormed → ((v == v) = true ↔ ¬v.HoldsNaN)) ∧
    (∀ r s : Record Value, WellFormedRecord r → WellFormedRecord s →
      ((object r == object s) = true ↔ r.className = s.className ∧
        ∀ key, Option.Rel (fun v w => (v == w) = true) (r.get? key) (s.get? key))) ∧
    (∀ r s : Record Value, (error r == error s) = (object r == object s)) ∧
    (∀ r s : Record Value, WellFormedRecord r → r.className = s.className →
      r.props.Perm s.props → ∀ v : Value,
        (object r == v) = (object s == v) ∧ (v == object r) = (v == object s)) ∧
    ∀ (l : Literal) (v : Value), l.strictEquals v = (l.toValue == v) := by
  refine ⟨?_, fun u v w => equals_trans, fun v => equals_self_iff, fun r s => equalsRecord_iff_get?,
    fun r s => rfl, ?_, Literal.strictEquals_eq⟩
  · intro v w hv hw
    rw [Bool.eq_iff_iff]
    exact ⟨equals_symm hv hw, equals_symm hw hv⟩
  · intro r s hr hclass hperm v
    obtain ⟨hd, -⟩ := wellFormedRecord_iff.1 hr
    cases v with
    -- only an object can be equal to an object, so only there the order could matter
    | object q => exact equalsRecord_perm hd hclass hperm q
    | _ => exact ⟨rfl, rfl⟩

/-- An object and the same object with its properties in the other order: they are equal to the same
values, but neither to itself nor to the other, since a NaN is a key of a map inside. -/
theorem equals_is_partial_equivalence_beside_nan :
    let inner : Value := .map [(.string "k", .null), (.number .nan, .bool true)]
    let r : Record Value := ⟨some "Box", [(.string "a", .set [inner]), (.string "b", .null)]⟩
    let s : Record Value := ⟨some "Box", [(.string "b", .null), (.string "a", .set [inner])]⟩
    (object r == object r) = false ∧ (object s == object r) = false ∧
      (object r == object s) = (object s == object r) ∧
      (object {} == object {}) = true := by
  intro inner r s
  obtain ⟨hsymm, -, hself, hkeys, -, hperm, -⟩ := equals_is_partial_equivalence
  have hinner : inner.WellFormed := ⟨trivial, trivial, trivial, trivial, trivial⟩
  have hr : WellFormedRecord r := ⟨by decide, ⟨hinner, trivial⟩, trivial, trivial⟩
  have hs : WellFormedRecord s := ⟨by decide, trivial, ⟨hinner, trivial⟩, trivial⟩
  have hempty : WellFormedRecord ({} : Record Value) := ⟨List.Pairwise.nil, trivial⟩
  have hnan : (object r).HoldsNaN := by
    refine ⟨.nan, by decide, ?_⟩
    refine .part (p := .set [inner]) (by simp [parts, r]) (.part (p := inner) (by simp [parts]) ?_)
    exact .part (p := .number .nan) (by simp [parts, inner]) .self
  have hrr : (object r == object r) = false :=
    Bool.eq_false_iff.2 fun h => (hself (object r) hr).1 h hnan
  refine ⟨hrr, ?_, hsymm (object r) (object s) hr hs, ?_⟩
  · have hsame := (hperm r s hr rfl (List.Perm.swap _ _ _) (object r)).1
    rw [← hsame]
    exact hrr
  · exact (hkeys {} {} hempty hempty).2 ⟨rfl, fun _ => .none⟩

end Casewise.Value
