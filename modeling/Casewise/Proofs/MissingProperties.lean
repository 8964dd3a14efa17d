import Casewise.Proofs.Satisfaction

/-!
# Declarations that ask for something to be there

The treatment of missing properties decides one thing only: whether a property that is not there
fails, or is tested as `undefined`. Where `undefined` fails the test anyway, the two treatments come
to the same. This is so of most of the vocabulary in which patterns are declared; only the words
`undefined` and `unknown`, negations and the empty conjunction can be satisfied by nothing at all.

* `PatternSpec.Definite` — a declaration that makes no use of these words.
* `PatternSpec.Definite.satisfiedBy_undefined` — no definite declaration is satisfied by
  `undefined`, under either treatment.
* `PatternSpec.Definite.satisfiedBy_eq` — what satisfies a definite declaration does not depend on
  the treatment. At a template over properties this rests on the lemma before it, applied to the
  declarations of the properties (`MissingFields.holdsAt_eq_of_refuses`).
* `PatternSpec.definite_ignores_missing` — both for compiled patterns.

The examples at the end show that each of the words that are left out breaks the law.
-/

namespace Casewise

variable {ε : Type}

/-- A property that is not there fails a test that `undefined` fails, under either treatment. -/
theorem MissingFields.holdsAt_eq_of_refuses (missing missing' : MissingFields)
    {test test' : Value → Bool} (hsame : ∀ w, test w = test' w)
    (hrefuses : test .undefined = false) (v : Value) (key : PropertyKey) :
    missing.holdsAt v key test = missing'.holdsAt v key test' := by
  have hrefuses' : test' .undefined = false := by rw [← hsame, hrefuses]
  unfold holdsAt
  -- a property that is there is tested under either treatment
  cases v.property? key with
  | some w => exact hsame w
  | none => cases missing <;> cases missing' <;> simp only [hrefuses, hrefuses']

/-- Tests that agree on the members of a list hold of all of them alike. -/
private theorem all_eq_of_forall_mem {α : Type} {as : List α} {test test' : α → Bool}
    (h : ∀ a ∈ as, test a = test' a) : as.all test = as.all test' := by
  induction as with
  | nil => rfl
  | cons a as ih =>
    obtain ⟨ha, has⟩ := List.forall_mem_cons.1 h
    rw [List.all_cons, List.all_cons, ha, ih has]

/-! ### JSON data -/

namespace Json

/-- JSON data have no `undefined`. -/
theorem partlyEquals_undefined (missing : MissingFields) (j : Json) :
    j.partlyEquals missing .undefined = false := by
  cases j <;> rfl

/-- Partial equality with JSON data does not depend on the treatment of missing properties. -/
theorem partlyEquals_eq (missing missing' : MissingFields) (j : Json) (v : Value) :
    j.partlyEquals missing v = j.partlyEquals missing' v := by
  induction j generalizing v with
  | null => rfl
  | bool b => rfl
  | number n => rfl
  | string s => rfl
  | array items ih =>
    -- the items are compared by position, which no treatment has a part in
    have hprefix : partlyEqualsPrefix missing items = partlyEqualsPrefix missing' items := by
      funext vs
      rw [partlyEqualsPrefix_eq, partlyEqualsPrefix_eq]
      refine congrArg _ (all_eq_of_forall_mem fun e he => ?_)
      exact ih e.1 (List.of_mem_zip he).1 e.2
    rw [partlyEquals, partlyEquals, hprefix]
  | object members ih =>
    rw [partlyEquals, partlyEquals, partlyEqualsMembers_eq_all, partlyEqualsMembers_eq_all]
    refine congrArg _ (all_eq_of_forall_mem fun m hm => ?_)
    exact MissingFields.holdsAt_eq_of_refuses missing missing' (ih m hm)
      (partlyEquals_undefined missing m.2) v (.string m.1)

end Json

/-! ### Declarations -/

namespace PatternSpec

/-- The declaration asks for something to be there: it has no negation, no conjunction of nothing,
and none of the two type names that `undefined` is of. -/
inductive Definite : PatternSpec → Prop
  | equals (j : Json) : Definite (.equals j)
  | oneOf (js : List Json) : Definite (.oneOf js)
  | type {t : TypeName} : t ≠ .undefined → t ≠ .unknown → Definite (.type t)
  | startsWith (start : String) : Definite (.startsWith start)
  | fields {fs : List (String × PatternSpec)} : (∀ f ∈ fs, Definite f.2) → Definite (.fields fs)
  | elements {ss : List PatternSpec} : (∀ s ∈ ss, Definite s) → Definite (.elements ss)
  | allOf {ss : List PatternSpec} : ss ≠ [] → (∀ s ∈ ss, Definite s) → Definite (.allOf ss)
  | anyOf {ss : List PatternSpec} : (∀ s ∈ ss, Definite s) → Definite (.anyOf ss)

end PatternSpec

/-- `undefined` is of two types: its own, and the one that everything is of. -/
theorem TypeName.holds_undefined {t : TypeName} (hundefined : t ≠ .undefined)
    (hunknown : t ≠ .unknown) : t.holds .undefined = false := by
  cases t with
  | undefined => exact absurd rfl hundefined
  | unknown => exact absurd rfl hunknown
  | _ => rfl

namespace PatternSpec.Definite

variable {s : PatternSpec}

/-- **Definite declarations refuse `undefined`.** Templates do because it has neither properties nor
positions, a conjunction because its first operand does, and a disjunction because all of its
operands do. -/
theorem satisfiedBy_undefined (h : s.Definite) (missing : MissingFields) :
    s.satisfiedBy missing .undefined = false := by
  induction h with
  | equals j => exact j.partlyEquals_undefined missing
  | oneOf js =>
    rw [satisfiedBy, List.any_eq_false]
    intro j _
    rw [j.partlyEquals_undefined]
    exact Bool.false_ne_true
  | type hundefined hunknown => exact TypeName.holds_undefined hundefined hunknown
  | startsWith start => rfl
  -- `undefined` is neither object-like nor an array
  | fields _ _ => rfl
  | elements _ _ => rfl
  | @allOf ss hne _ ih =>
    cases ss with
    -- the empty conjunction would be satisfied, and is left out
    | nil => exact absurd rfl hne
    | cons s ss => rw [satisfiedBy, allSatisfiedBy, ih s List.mem_cons_self, Bool.false_and]
  | anyOf _ ih =>
    rw [satisfiedBy, anySatisfiedBy_eq_any, List.any_eq_false]
    intro s hs
    rw [ih s hs]
    exact Bool.false_ne_true

/-- **Definite declarations ignore the treatment of missing properties.** -/
theorem satisfiedBy_eq (h : s.Definite) (missing missing' : MissingFields) (v : Value) :
    s.satisfiedBy missing v = s.satisfiedBy missing' v := by
  induction h generalizing v with
  | equals j => exact j.partlyEquals_eq missing missing' v
  | oneOf js =>
    rw [satisfiedBy, satisfiedBy]
    exact List.any_congr rfl fun j => j.partlyEquals_eq missing missing' v
  | type _ _ => rfl
  | startsWith start => rfl
  | fields hfs ih =>
    rw [satisfiedBy, satisfiedBy, fieldsSatisfiedBy_eq_all, fieldsSatisfiedBy_eq_all]
    refine congrArg _ (all_eq_of_forall_mem fun f hf => ?_)
    -- the one place where the treatment is asked for: what is declared of the property has to
    -- refuse `undefined`
    exact MissingFields.holdsAt_eq_of_refuses missing missing' (ih f hf)
      ((hfs f hf).satisfiedBy_undefined missing) v (.string f.1)
  | @elements ss _ ih =>
    have hprefix : prefixSatisfiedBy missing ss = prefixSatisfiedBy missing' ss := by
      funext vs
      rw [prefixSatisfiedBy_eq, prefixSatisfiedBy_eq]
      refine congrArg _ (all_eq_of_forall_mem fun e he => ?_)
      exact ih e.1 (List.of_mem_zip he).1 e.2
    rw [satisfiedBy, satisfiedBy, hprefix]
  | allOf _ _ ih =>
    rw [satisfiedBy, satisfiedBy, allSatisfiedBy_eq_all, allSatisfiedBy_eq_all]
    exact all_eq_of_forall_mem fun s hs => ih s hs v
  | anyOf _ ih =>
    rw [satisfiedBy, satisfiedBy, anySatisfiedBy_eq_any, anySatisfiedBy_eq_any, Bool.eq_iff_iff,
      List.any_eq_true, List.any_eq_true]
    exact exists_congr fun s => and_congr_right fun hs => by rw [ih s hs v]

end PatternSpec.Definite

namespace PatternSpec

/-- The compiled pattern of a declaration emits nothing and answers whether the declaration is
satisfied. -/
theorem accepts_compile_toPattern (o : MatchOptions) (s : PatternSpec) (v : Value) :
    ((s.toPattern : Pattern ε).compile o).accepts v = pure (s.satisfiedBy o.missingFields v) := by
  rw [Pattern.accepts_compile, meaning_toPattern]

/-- **A definite declaration ignores the treatment of missing properties.** Compiled under any
options it does not accept `undefined`; and of every value it accepts the same where missing
properties are rejected and where they are tested as `undefined`. -/
theorem definite_ignores_missing {s : PatternSpec} (h : s.Definite) (o : MatchOptions) :
    ((s.toPattern : Pattern ε).compile o).accepts .undefined = pure false ∧
      ∀ v, ((s.toPattern : Pattern ε).compile { o with missingFields := .reject }).accepts v
        = ((s.toPattern : Pattern ε).compile { o with missingFields := .undefined }).accepts v := by
  constructor
  · rw [accepts_compile_toPattern, h.satisfiedBy_undefined]
  · intro v
    rw [accepts_compile_toPattern, accepts_compile_toPattern, h.satisfiedBy_eq .reject .undefined]

/-- Templates inside templates, each of them with a property or a position that is to be there: the
record without the inner property is refused under the treatment that looks at it as
`undefined`. -/
theorem definite_ignores_missing_inside :
    let s : PatternSpec := .allOf [.fields [("user", .anyOf
      [.fields [("age", .type .number), ("address", .equals (.object [("street", .null)]))],
        .startsWith "anonymous", .oneOf [.null]]), ("tags", .elements [.type .defined])]]
    let v : Value := .object ⟨none, [(.string "user", .object ⟨none, [(.string "age", .ofInt 7)]⟩),
      (.string "tags", .array [.bool true])]⟩
    s.Definite ∧ ((s.toPattern : Pattern Unit).compile {}).accepts .undefined = pure false ∧
      ((s.toPattern : Pattern Unit).compile { missingFields := .undefined }).accepts v
        = pure false := by
  intro s v
  -- from the innermost template outwards
  have hfields : (fields [("age", .type .number),
      ("address", .equals (.object [("street", .null)]))]).Definite :=
    .fields (List.forall_mem_cons.2 ⟨.type nofun nofun, List.forall_mem_singleton.2 (.equals _)⟩)
  have huser : (anyOf [fields [("age", .type .number),
      ("address", .equals (.object [("street", .null)]))],
      .startsWith "anonymous", .oneOf [.null]]).Definite :=
    .anyOf (List.forall_mem_cons.2 ⟨hfields,
      List.forall_mem_cons.2 ⟨.startsWith _, List.forall_mem_singleton.2 (.oneOf _)⟩⟩)
  have htags : (elements [.type .defined]).Definite :=
    .elements (List.forall_mem_singleton.2 (.type nofun nofun))
  have hs : s.Definite := .allOf (List.cons_ne_nil _ _) (List.forall_mem_singleton.2
    (.fields (List.forall_mem_cons.2 ⟨huser, List.forall_mem_singleton.2 htags⟩)))
  obtain ⟨hundefined, hsame⟩ := definite_ignores_missing (ε := Unit) hs {}
  exact ⟨hs, hundefined, (hsame v).symm.trans rfl⟩

/-- Each of the words that are left out is satisfied by a property that is not there, if that is
tested as `undefined`. -/
example :
    ∀ s ∈ [type .undefined, type .unknown, allOf [], not (oneOf []),
        anyOf [equals .null, allOf []]],
      (fields [("a", fields [("b", s)])]).satisfiedBy .reject
          (.object ⟨none, [(.string "a", .object {})]⟩) = false ∧
        (fields [("a", fields [("b", s)])]).satisfiedBy .undefined
          (.object ⟨none, [(.string "a", .object {})]⟩) = true := by decide

end PatternSpec

end Casewise
