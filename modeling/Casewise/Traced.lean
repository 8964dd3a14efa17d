/-!
# Results with a trace

A guard or a handler may leave marks behind: that it ran, on what, in which order. `Traced ε α`
is a result of type `α` together with the events of type `ε` that computing it emitted, oldest
first. It is plain data, so two computations agree in result and in everything they did exactly
when their `Traced` values are equal.

* `Traced.emit` — an event and nothing else.
* `Traced.all`, `Traced.any` — a test over a list, from the left, that stops after the element
  which decides the answer; what stands behind it emits nothing (`Traced.all_eq`, `Traced.any_eq`).

The monad laws hold (`LawfulMonad`), so sequences of tests can be regrouped freely.
-/

namespace Casewise

/-- A result together with the events emitted on the way to it, oldest first. -/
structure Traced (ε α : Type) where
  value : α
  events : List ε

namespace Traced

variable {ε α β : Type}

/-- Results with equal values and equal traces are the same. -/
@[ext] protected theorem ext {s t : Traced ε α} (hv : s.value = t.value)
    (he : s.events = t.events) : s = t := by
  cases s; cases t; simp_all

instance : Monad (Traced ε) where
  pure a := ⟨a, []⟩
  bind t f := ⟨(f t.value).value, t.events ++ (f t.value).events⟩

/-- A result at hand is its own value. -/
@[simp] theorem value_pure (a : α) : (pure a : Traced ε α).value = a := rfl

/-- Handing a result on emits nothing. -/
@[simp] theorem events_pure (a : α) : (pure a : Traced ε α).events = [] := rfl

/-- The value of a sequence is that of its second part, run on the value of the first. -/
@[simp] theorem value_bind (t : Traced ε α) (f : α → Traced ε β) :
    (t >>= f).value = (f t.value).value := rfl

/-- A sequence emits what its first part emits, and then what its second part does. -/
@[simp] theorem events_bind (t : Traced ε α) (f : α → Traced ε β) :
    (t >>= f).events = t.events ++ (f t.value).events := rfl

instance : LawfulMonad (Traced ε) := LawfulMonad.mk' (Traced ε)
  (fun t => by cases t; simp [Functor.map])
  (fun _ _ => Traced.ext rfl rfl)
  (fun t f g => Traced.ext rfl (by simp))

/-- The event `e` and no other effect. -/
def emit (e : ε) : Traced ε Unit := ⟨(), [e]⟩

/-- Whether `test` holds of every element, asked from the left up to the first failure. -/
def all (test : α → Traced ε Bool) : List α → Traced ε Bool
  | [] => pure true
  | a :: as => do if ← test a then all test as else pure false

/-- Whether `test` holds of some element, asked from the left up to the first success. -/
def any (test : α → Traced ε Bool) : List α → Traced ε Bool
  | [] => pure false
  | a :: as => do if ← test a then pure true else any test as

/-- Conjunction is what `all` computes, and the first element that fails is the last that is asked:
what is emitted comes from the elements up to that one, in order. -/
theorem all_eq (test : α → Traced ε Bool) (as : List α) :
    all test as = ⟨as.all fun a => (test a).value,
      (as.take (as.findIdx (fun a => !(test a).value) + 1)).flatMap fun a => (test a).events⟩ := by
  induction as with
  | nil => rfl
  | cons a as ih =>
    rw [all, List.findIdx_cons, List.all_cons]
    cases h : (test a).value with
    -- an element that holds lets the search go on, and its events come first
    | true => exact Traced.ext (by simp [h, ih]) (by simp [h, ih])
    | false => exact Traced.ext (by simp [h]) (by simp [h])

/-- Disjunction is what `any` computes, and the first element that holds is the last that is asked:
what is emitted comes from the elements up to that one, in order. -/
theorem any_eq (test : α → Traced ε Bool) (as : List α) :
    any test as = ⟨as.any fun a => (test a).value,
      (as.take (as.findIdx (fun a => (test a).value) + 1)).flatMap fun a => (test a).events⟩ := by
  induction as with
  | nil => rfl
  | cons a as ih =>
    rw [any, List.findIdx_cons, List.any_cons]
    cases h : (test a).value with
    | true => exact Traced.ext (by simp [h]) (by simp [h])
    | false => exact Traced.ext (by simp [h, ih]) (by simp [h, ih])

/-- The value of `all` is the conjunction of the values, whatever the tests emit. -/
theorem value_all (test : α → Traced ε Bool) (as : List α) :
    (all test as).value = as.all fun a => (test a).value := congrArg Traced.value (all_eq test as)

/-- The value of `any` is the disjunction of the values, whatever the tests emit. -/
theorem value_any (test : α → Traced ε Bool) (as : List α) :
    (any test as).value = as.any fun a => (test a).value := congrArg Traced.value (any_eq test as)

/-! ### Lists taken apart

A test over a list is asked about its parts in turn: the second part only if the first leaves the
answer open. -/

/-- Behind a failure in the first list the second one is not asked. -/
theorem all_append (test : α → Traced ε Bool) (as bs : List α) :
    all test (as ++ bs) = (do if ← all test as then all test bs else pure false) := by
  induction as with
  | nil => simp [all]
  | cons a as ih =>
    rw [List.cons_append, all, all, ih, bind_assoc]
    refine bind_congr fun b => ?_
    -- the answer for `a` decides on both sides whether anything else is asked
    cases b <;> simp

/-- Behind a success in the first list the second one is not asked. -/
theorem any_append (test : α → Traced ε Bool) (as bs : List α) :
    any test (as ++ bs) = (do if ← any test as then pure true else any test bs) := by
  induction as with
  | nil => simp [any]
  | cons a as ih =>
    rw [List.cons_append, any, any, ih, bind_assoc]
    refine bind_congr fun b => ?_
    cases b <;> simp

/-- Handing an answer on unchanged is no step of its own. -/
theorem bind_ite_pure (t : Traced ε Bool) :
    (do if ← t then pure true else pure false) = t := by
  have h : ∀ b : Bool, (if b then pure true else pure false : Traced ε Bool) = pure b := by
    intro b
    cases b <;> rfl
  simp only [h, bind_pure]

/-- A list of one element asks the one question. -/
theorem all_singleton (test : α → Traced ε Bool) (a : α) : all test [a] = test a :=
  bind_ite_pure (test a)

/-- So it does where one success is enough. -/
theorem any_singleton (test : α → Traced ε Bool) (a : α) : any test [a] = test a :=
  bind_ite_pure (test a)

/-- To test a list of lists is to test the lists one by one, which is why nesting of conjunctions
leaves no trace. -/
theorem all_flatMap (test : α → Traced ε Bool) (f : β → List α) (bs : List β) :
    all test (bs.flatMap f) = all (fun b => all test (f b)) bs := by
  induction bs with
  | nil => rfl
  | cons b bs ih => rw [List.flatMap_cons, all_append, ih, all]

/-- The same of a disjunction of disjunctions. -/
theorem any_flatMap (test : α → Traced ε Bool) (f : β → List α) (bs : List β) :
    any test (bs.flatMap f) = any (fun b => any test (f b)) bs := by
  induction bs with
  | nil => rfl
  | cons b bs ih => rw [List.flatMap_cons, any_append, ih, any]

/-- To test the images of elements is to test the elements by their images. -/
theorem all_map (test : α → Traced ε Bool) (f : β → α) (bs : List β) :
    all test (bs.map f) = all (fun b => test (f b)) bs := by
  induction bs with
  | nil => rfl
  | cons b bs ih => rw [List.map_cons, all, all, ih]

/-- The same of a disjunction. -/
theorem any_map (test : α → Traced ε Bool) (f : β → α) (bs : List β) :
    any test (bs.map f) = any (fun b => test (f b)) bs := by
  induction bs with
  | nil => rfl
  | cons b bs ih => rw [List.map_cons, any, any, ih]

/-- Tests that agree on the elements of a list make one test of it. -/
theorem all_congr {test test' : α → Traced ε Bool} {as : List α}
    (h : ∀ a ∈ as, test a = test' a) : all test as = all test' as := by
  induction as with
  | nil => rfl
  | cons a as ih =>
    rw [all, all, h a List.mem_cons_self, ih fun b hb => h b (List.mem_cons_of_mem a hb)]

/-- The same where one success is enough. -/
theorem any_congr {test test' : α → Traced ε Bool} {as : List α}
    (h : ∀ a ∈ as, test a = test' a) : any test as = any test' as := by
  induction as with
  | nil => rfl
  | cons a as ih =>
    rw [any, any, h a List.mem_cons_self, ih fun b hb => h b (List.mem_cons_of_mem a hb)]

/-- Tests that emit nothing make a test of the list that emits nothing. -/
theorem all_of_pure {test : α → Traced ε Bool} {holds : α → Bool} {as : List α}
    (h : ∀ a ∈ as, test a = pure (holds a)) : all test as = pure (as.all holds) := by
  rw [all_congr h]
  induction as with
  | nil => rfl
  | cons a as ih =>
    rw [all, pure_bind, ih fun b hb => h b (List.mem_cons_of_mem a hb), List.all_cons]
    cases holds a <;> rfl

/-- A test that each element of a list fails in silence, the list fails in silence, if there is an
element to be asked. -/
theorem all_of_pure_false {test : α → Traced ε Bool} {as : List α} (hne : as ≠ [])
    (h : ∀ a ∈ as, test a = pure false) : all test as = pure false := by
  cases as with
  | nil => exact absurd rfl hne
  | cons a as => rw [all, h a List.mem_cons_self, pure_bind, if_neg Bool.false_ne_true]

/-- The same where one success is enough. -/
theorem any_of_pure {test : α → Traced ε Bool} {holds : α → Bool} {as : List α}
    (h : ∀ a ∈ as, test a = pure (holds a)) : any test as = pure (as.any holds) := by
  rw [any_congr h]
  induction as with
  | nil => rfl
  | cons a as ih =>
    rw [any, pure_bind, ih fun b hb => h b (List.mem_cons_of_mem a hb), List.any_cons]
    cases holds a <;> rfl

end Traced

end Casewise
