import Casewise.Pattern.Occurrence
import Casewise.Proofs.Answers
import Casewise.Value.Extension

/-!
# Templates are open

A template says what has to be there and nothing about the rest, so adding to a value what a pattern
does not ask for never breaks a match, however deep inside the value it is added. Two things limit
the law. Negation turns it around, and so the pattern must be without negations. And where a missing
property is tested as `undefined`, a property that is added may fail the test that its absence had
passed; so missing properties have to be rejected.

* `Pattern.admits_of_extendedBy` — a match survives extension, by induction over the pattern, the
  properties and items of the value being extended along with it;
* `Pattern.accepts_of_extendedBy` — the same for compiled patterns.
-/

namespace Casewise

variable {ε : Type}

/-- What the predicate holds of it holds of in every extension. -/
def Predicate.PreservedByExtension (p : Predicate ε Value) : Prop :=
  ∀ v w : Value, v.ExtendedBy w → (p.test v).value = true → (p.test w).value = true

/-- A property that passes a test passes it after an extension, if the test is preserved and missing
properties are rejected: the property is then there, and so is its extension. -/
theorem MissingFields.holdsAt_reject_of_extendedBy {v w : Value} (h : v.ExtendedBy w)
    {key : PropertyKey} {test : Value → Bool}
    (htest : ∀ x y : Value, x.ExtendedBy y → test x = true → test y = true)
    (hholds : reject.holdsAt v key test = true) : reject.holdsAt w key test = true := by
  unfold holdsAt at hholds ⊢
  cases hprop : v.property? key with
  | none =>
    rw [hprop] at hholds
    cases hholds
  | some x =>
    rw [hprop] at hholds
    obtain ⟨y, hy, hxy⟩ := h.property? hprop
    rw [hy]
    exact htest x y hxy hholds

namespace Pattern

/-- **Matches survive extension.** -/
theorem admits_of_extendedBy {p : Pattern ε} (hfree : p.NegationFree)
    (hg : p.EveryGuard Predicate.PreservedByExtension) {v w : Value} (h : v.ExtendedBy w)
    (hv : p.admits .reject v = true) : p.admits .reject w = true := by
  induction p generalizing v w with
  | any => rfl
  | defined =>
    rw [← hv]
    simp only [admits, meaning, Traced.value_pure, Value.isNullish, h.kind_eq]
  | literal l => rwa [h.eq_of_strictEquals hv]
  | oneOf ls =>
    -- a value equal to a literal is a primitive, which has no extension but itself
    obtain ⟨l, -, hl⟩ := List.any_eq_true.1 hv
    rwa [h.eq_of_strictEquals hl]
  | guard g => exact hg 0 g .self v w h hv
  | not p => exact absurd hfree not_negationFree_not
  | allOf ps ih =>
    have hfree : ∀ p ∈ ps, p.NegationFree := (everyPart_allOf_iff (by simp)).1 hfree
    have hg : ∀ p ∈ ps, p.EveryGuard Predicate.PreservedByExtension :=
      (everyPart_allOf_iff (by simp)).1 hg
    rw [admits_allOf_iff] at hv ⊢
    exact fun p hp => ih p hp (hfree p hp) (hg p hp) h (hv p hp)
  | anyOf ps ih =>
    have hfree : ∀ p ∈ ps, p.NegationFree := (everyPart_anyOf_iff (by simp)).1 hfree
    have hg : ∀ p ∈ ps, p.EveryGuard Predicate.PreservedByExtension :=
      (everyPart_anyOf_iff (by simp)).1 hg
    rw [admits_anyOf_iff] at hv ⊢
    obtain ⟨p, hp, hadmits⟩ := hv
    exact ⟨p, hp, ih p hp (hfree p hp) (hg p hp) h hadmits⟩
  | fields fs ih =>
    -- the kind stays, and each property that is asked for is still there, perhaps extended
    have hfree : ∀ f ∈ fs, f.2.NegationFree := (everyPart_fields_iff (by simp)).1 hfree
    have hg : ∀ f ∈ fs, f.2.EveryGuard Predicate.PreservedByExtension :=
      (everyPart_fields_iff (by simp)).1 hg
    rw [admits_fields_iff] at hv ⊢
    have hlike : w.isObjectLike = true := by
      rw [Value.isObjectLike, ← h.kind_eq]
      exact hv.1
    refine ⟨hlike, fun f hf => ?_⟩
    exact MissingFields.holdsAt_reject_of_extendedBy h
      (fun x y hxy => ih f hf (hfree f hf) (hg f hf) hxy) (hv.2 f hf)
  | elements ps ih =>
    -- an array only grows at its end, so each position keeps its item, perhaps extended
    have hfree : ∀ p ∈ ps, p.NegationFree := (everyPart_elements_iff (by simp)).1 hfree
    have hg : ∀ p ∈ ps, p.EveryGuard Predicate.PreservedByExtension :=
      (everyPart_elements_iff (by simp)).1 hg
    rw [admits_elements_iff] at hv ⊢
    obtain ⟨vs, hvs, hall⟩ := hv
    obtain ⟨ws, hws, hext⟩ := h.items? hvs
    refine ⟨ws, hws, fun i p hi => ?_⟩
    obtain ⟨x, hx, hadmits⟩ := hall i p hi
    obtain ⟨y, hy, hxy⟩ := hext i x hx
    have hp : p ∈ ps := List.mem_of_getElem? hi
    exact ⟨y, hy, ih p hp (hfree p hp) (hg p hp) hxy hadmits⟩

/-- **Templates are open.** A compiled pattern without negations that rejects missing properties,
and whose guards are preserved by extension, accepts with a value every extension of it: further
properties and trailing items, at any depth, never break a match. -/
theorem accepts_of_extendedBy (p : Pattern ε) (hfree : p.NegationFree)
    (hg : p.EveryGuard Predicate.PreservedByExtension) (o : MatchOptions)
    (ho : o.missingFields = .reject) (v w : Value) (h : v.ExtendedBy w)
    (hv : ((p.compile o).accepts v).value = true) : ((p.compile o).accepts w).value = true := by
  rw [value_accepts_compile, ho] at hv ⊢
  exact admits_of_extendedBy hfree hg h hv

/-- A property at the root, one inside, and an item behind the last one that is asked for. -/
theorem accepts_of_extendedBy_inside :
    let v : Value := .object ⟨none, [(.string "user", .object ⟨none,
      [(.string "tags", .array [.string "a"])]⟩)]⟩
    let w : Value := .object ⟨none, [(.string "id", .null), (.string "user", .object ⟨none,
      [(.string "tags", .array [.string "a", .string "b"]), (.string "age", .null)]⟩)]⟩
    let p : Pattern Unit := .fields [(.string "user", .allOf
      [.record, .fields [(.string "tags", .elements [.literal (.string "a")])]])]
    v.ExtendedBy w ∧ ((p.compile {}).accepts w).value = true := by
  intro v w p
  have htags : Value.ExtendedBy (.array [.string "a"]) (.array [.string "a", .string "b"]) := by
    refine .array (by decide) fun i x y hx hy => ?_
    match i with
    | 0 => cases hx; cases hy; exact .identical _
    | i + 1 => cases hx
  have huser : v.ExtendedBy w := by
    refine .object_of_forall_mem rfl (List.forall_mem_singleton.2 ⟨_, rfl, ?_⟩)
    exact .object_of_forall_mem rfl (List.forall_mem_singleton.2 ⟨_, rfl, htags⟩)
  -- the guard of the pattern asks about the kind, which an extension does not change
  have hrecord : (record : Pattern Unit).EveryGuard Predicate.PreservedByExtension := by
    refine everyGuard_guard_iff.2 fun x y hxy hx => ?_
    simpa only [Predicate.guard, Predicate.ofBool, Guard.holds, hxy.kind_eq] using hx
  have hfree : p.NegationFree := by
    refine (everyPart_fields_iff (by simp)).2 (List.forall_mem_singleton.2 ?_)
    refine (everyPart_allOf_iff (by simp)).2 (List.forall_mem_cons.2 ⟨?_, ?_⟩)
    · exact everyPart_of_isLeaf trivial (by simp [record, ofGuard])
    · refine List.forall_mem_singleton.2 ((everyPart_fields_iff (by simp)).2 ?_)
      refine List.forall_mem_singleton.2 ((everyPart_elements_iff (by simp)).2 ?_)
      exact List.forall_mem_singleton.2 (everyPart_of_isLeaf trivial (by simp))
  have hg : p.EveryGuard Predicate.PreservedByExtension := by
    refine (everyPart_fields_iff (by simp)).2 (List.forall_mem_singleton.2 ?_)
    refine (everyPart_allOf_iff (by simp)).2 (List.forall_mem_cons.2 ⟨hrecord, ?_⟩)
    refine List.forall_mem_singleton.2 ((everyPart_fields_iff (by simp)).2 ?_)
    refine List.forall_mem_singleton.2 ((everyPart_elements_iff (by simp)).2 ?_)
    exact List.forall_mem_singleton.2 (everyGuard_of_isLeaf trivial (by simp))
  exact ⟨huser, accepts_of_extendedBy p hfree hg {} rfl v w huser rfl⟩

/-- Where missing properties are tested as `undefined`, a property that is added may fail the
test. -/
example :
    let p : Pattern Unit := .fields [(.string "error", .undefined)]
    p.admits .undefined (.object {}) = true ∧
      p.admits .undefined (.object ⟨none, [(.string "error", .null)]⟩) = false := by decide

end Pattern

end Casewise
