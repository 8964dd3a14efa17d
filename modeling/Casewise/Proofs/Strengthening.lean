import Casewise.Pattern.Strengthening
import Casewise.Proofs.Answers

/-!
# A strengthened pattern accepts less

A pattern implies another one if it admits nothing that the other one does not admit. An edit makes
a pattern that implies the one before it. Every constructor carries implication from its operands to
the whole, negation in the opposite direction, so an edit anywhere inside a pattern has its effect
at the root, and the direction of that effect is decided by the number of negations in between:

* `Pattern.Implies.not`, `Pattern.Implies.allOf_replace` and the lemmas after them — one constructor
  each;
* `Pattern.ReplacedAt.implies` — from a part to the whole, by induction over the place of the part,
  for both parities at once since a negation exchanges them;
* `Pattern.Edit.implies` — the edits;
* `Pattern.IsStrengtheningOf.implies` — any number of changes, by induction over their number.
-/

namespace Casewise

variable {ε : Type} {missing : MissingFields}

/-- A property that passes a test passes every test that is implied by it. -/
theorem MissingFields.holdsAt_mono (missing : MissingFields) {v : Value} {key : PropertyKey}
    {test test' : Value → Bool} (h : ∀ w, test w = true → test' w = true)
    (hholds : missing.holdsAt v key test = true) : missing.holdsAt v key test' = true := by
  unfold holdsAt at hholds ⊢
  cases hprop : v.property? key with
  | some w =>
    rw [hprop] at hholds
    exact h w hholds
  | none =>
    rw [hprop] at hholds
    cases missing with
    -- the property is missing: `undefined` is tested, or nothing passes
    | undefined => exact h .undefined hholds
    | reject => cases hholds

/-- Exchanging one entry of a list leaves the other positions as they were. -/
theorem getElem?_append_cons_of_ne {α : Type} (before after : List α) (x y : α) {i : Nat}
    (hi : i ≠ before.length) : (before ++ y :: after)[i]? = (before ++ x :: after)[i]? := by
  have hset : (before ++ x :: after).set before.length y = before ++ y :: after := by simp
  rw [← hset, List.getElem?_set_ne hi.symm]

namespace Pattern

/-- Whatever `p` admits, `q` admits. -/
def Implies (missing : MissingFields) (p q : Pattern ε) : Prop :=
  ∀ v, p.admits missing v = true → q.admits missing v = true

namespace Implies

variable {p q r : Pattern ε}

/-- A pattern implies itself. -/
theorem refl (p : Pattern ε) : p.Implies missing p := fun _ h => h

/-- Implications can be put in a row. -/
theorem trans (hpq : p.Implies missing q) (hqr : q.Implies missing r) : p.Implies missing r :=
  fun v h => hqr v (hpq v h)

/-! ### From an operand to the whole -/

/-- Negation turns an implication around. -/
theorem not (h : p.Implies missing q) : q.not.Implies missing p.not := by
  intro v hv
  rw [admits_not, Bool.not_eq_true'] at hv ⊢
  rw [Bool.eq_false_iff] at hv ⊢
  exact fun hp => hv (h v hp)

/-- A conjunction asks less where one of its operands does. -/
theorem allOf_replace (h : p.Implies missing q) (before after : List (Pattern ε)) :
    (allOf (before ++ p :: after)).Implies missing (allOf (before ++ q :: after)) := by
  intro v hv
  rw [admits_allOf_iff, List.forall_mem_append, List.forall_mem_cons] at hv ⊢
  obtain ⟨hbefore, hp, hafter⟩ := hv
  exact ⟨hbefore, h v hp, hafter⟩

/-- A disjunction admits more where one of its operands does. -/
theorem anyOf_replace (h : p.Implies missing q) (before after : List (Pattern ε)) :
    (anyOf (before ++ p :: after)).Implies missing (anyOf (before ++ q :: after)) := by
  intro v hv
  rw [admits_anyOf_iff] at hv ⊢
  obtain ⟨s, hs, hadmits⟩ := hv
  -- the disjunct that admits `v` stands before the exchanged one, is it, or stands after it
  rcases List.mem_append.1 hs with hbefore | hrest
  · exact ⟨s, List.mem_append_left _ hbefore, hadmits⟩
  · rcases List.mem_cons.1 hrest with rfl | hafter
    · exact ⟨q, List.mem_append_right _ List.mem_cons_self, h v hadmits⟩
    · exact ⟨s, List.mem_append_right _ (List.mem_cons_of_mem _ hafter), hadmits⟩

/-- A template over properties asks less where what stands under one of its keys does, under both
treatments of missing properties. -/
theorem fields_replace (h : p.Implies missing q) (key : PropertyKey)
    (before after : List (PropertyKey × Pattern ε)) :
    (fields (before ++ (key, p) :: after)).Implies missing
      (fields (before ++ (key, q) :: after)) := by
  intro v hv
  rw [admits_fields_iff, List.forall_mem_append, List.forall_mem_cons] at hv ⊢
  obtain ⟨hlike, hbefore, hp, hafter⟩ := hv
  exact ⟨hlike, hbefore, missing.holdsAt_mono h hp, hafter⟩

/-- A template over positions asks less where what stands at one of them does. -/
theorem elements_replace (h : p.Implies missing q) (before after : List (Pattern ε)) :
    (elements (before ++ p :: after)).Implies missing (elements (before ++ q :: after)) := by
  intro v hv
  rw [admits_elements_iff] at hv ⊢
  obtain ⟨vs, hvs, hall⟩ := hv
  refine ⟨vs, hvs, fun i s hs => ?_⟩
  by_cases hi : i = before.length
  · subst hi
    -- the exchanged position asks for less than before
    rw [List.getElem?_append_right (Nat.le_refl _), Nat.sub_self, List.getElem?_cons_zero] at hs
    cases hs
    obtain ⟨w, hw, hadmits⟩ := hall before.length p (by simp)
    exact ⟨w, hw, h w hadmits⟩
  · rw [getElem?_append_cons_of_ne before after p q hi] at hs
    exact hall i s hs

end Implies

/-- **The place of a part decides the direction.** Below an even number of negations, exchanging a
part for one that it implies makes a pattern that is implied by the one before. Below an odd number,
it makes a pattern that implies the one before. -/
theorem ReplacedAt.implies {r r' : Pattern ε} (hr : r.Implies missing r') {n : Nat}
    {p p' : Pattern ε} (h : ReplacedAt r r' n p p') :
    (n % 2 = 0 → p.Implies missing p') ∧ (n % 2 = 1 → p'.Implies missing p) := by
  -- no negation at the part itself; each step outwards keeps the parity but for a negation
  induction h with
  | self => exact ⟨fun _ => hr, fun hodd => by omega⟩
  | not _ ih =>
    obtain ⟨heven, hodd⟩ := ih
    -- one negation more: the other parity, and the other direction
    exact ⟨fun hn => (hodd (by omega)).not, fun hn => (heven (by omega)).not⟩
  | allOf before after _ ih =>
    obtain ⟨heven, hodd⟩ := ih
    exact ⟨fun hn => (heven hn).allOf_replace before after,
      fun hn => (hodd hn).allOf_replace before after⟩
  | anyOf before after _ ih =>
    obtain ⟨heven, hodd⟩ := ih
    exact ⟨fun hn => (heven hn).anyOf_replace before after,
      fun hn => (hodd hn).anyOf_replace before after⟩
  | fields key before after _ ih =>
    obtain ⟨heven, hodd⟩ := ih
    exact ⟨fun hn => (heven hn).fields_replace key before after,
      fun hn => (hodd hn).fields_replace key before after⟩
  | elements before after _ ih =>
    obtain ⟨heven, hodd⟩ := ih
    exact ⟨fun hn => (heven hn).elements_replace before after,
      fun hn => (hodd hn).elements_replace before after⟩

/-! ### Edits -/

/-- What opens with the longer of two beginnings opens with the shorter one. -/
theorem opens_trans {start start' s : String} (hlonger : opens start start' = true)
    (h : opens start' s = true) : opens start s = true := by
  unfold opens at hlonger h ⊢
  rw [List.isPrefixOf_iff_prefix] at hlonger h ⊢
  exact hlonger.trans h

/-- An edit makes a pattern that implies the one before it. -/
theorem Edit.implies {r r' : Pattern ε} (h : Edit r r') : r'.Implies missing r := by
  intro v hv
  cases h with
  | fields hfs =>
    -- whether `v` can have properties at all is asked in both
    rw [admits_fields_iff] at hv ⊢
    exact ⟨hv.1, fun f hf => hv.2 f (hfs.subset hf)⟩
  | elements ps qs =>
    rw [admits_elements_iff] at hv ⊢
    obtain ⟨vs, hvs, hall⟩ := hv
    refine ⟨vs, hvs, fun i p hi => hall i p ?_⟩
    -- the positions of the shorter template are positions of the longer one
    rw [List.getElem?_append_left (List.getElem?_eq_some_iff.1 hi).1]
    exact hi
  | allOf hps =>
    rw [admits_allOf_iff] at hv ⊢
    exact fun p hp => hv p (hps.subset hp)
  | anyOf hps =>
    rw [admits_anyOf_iff] at hv ⊢
    obtain ⟨p, hp, hadmits⟩ := hv
    exact ⟨p, hps.subset hp, hadmits⟩
  | oneOf hls =>
    rw [admits_oneOf_iff] at hv ⊢
    obtain ⟨l, hl, hequal⟩ := hv
    exact ⟨l, hls.subset hl, hequal⟩
  | startsWith hopens =>
    rw [admits_startsWith_iff] at hv ⊢
    obtain ⟨s, hs, hstart⟩ := hv
    exact ⟨s, hs, opens_trans hopens hstart⟩

/-! ### Any number of changes -/

/-- One change, wherever it is made: the parity of the place and the direction of the edit belong
together. -/
theorem StrengthenedBy.implies {p p' : Pattern ε} (h : p.StrengthenedBy p') :
    p'.Implies missing p := by
  obtain ⟨n, r, r', hplace, ⟨heven, hedit⟩ | ⟨hodd, hedit⟩⟩ := h
  · -- the part after the edit implies the one before, so the exchange is read backwards
    exact (hplace.symm.implies hedit.implies).1 heven
  · exact (hplace.implies hedit.implies).2 hodd

/-- Any number of changes, each of which makes a pattern that implies the one before. -/
theorem IsStrengtheningOf.implies {p p' : Pattern ε} (h : p'.IsStrengtheningOf p) :
    p'.Implies missing p := by
  unfold IsStrengtheningOf at h
  induction h with
  | refl => exact .refl p
  | tail _ hstep ih => exact hstep.implies.trans ih

/-- **A strengthened pattern accepts less**, in its compiled form and under all options. -/
theorem IsStrengtheningOf.accepts {p p' : Pattern ε} (h : p'.IsStrengtheningOf p)
    (o : MatchOptions) {v : Value} (hv : ((p'.compile o).accepts v).value = true) :
    ((p.compile o).accepts v).value = true := by
  rw [value_accepts_compile] at hv ⊢
  exact h.implies v hv

end Pattern

end Casewise
