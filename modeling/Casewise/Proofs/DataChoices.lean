import Casewise.Proofs.MissingProperties

/-!
# Choices among JSON data

`PatternSpec.oneOf` declares equality with one of a list of JSON data. A list of scalars becomes a
set of literals, and with a single compound among them the whole list becomes a disjunction of
templates instead. Which of the two it is makes no difference to what is accepted:

* `PatternSpec.oneOfPattern_eq` — the two forms, told apart by `Json.isCompound`;
* `PatternSpec.accepts_oneOf_eq_anyOf` — either is the disjunction of the declarations of equality
  with the members of the list;
* `PatternSpec.oneOf_is_anyOf_equals` — this, and what becomes of a list into which a member is
  inserted: one more alternative, whatever happens to the form.
-/

namespace Casewise

variable {ε : Type}

/-! ### The two forms -/

/-- Whether the data have parts: arrays and objects. -/
def Json.isCompound : Json → Bool
  | .array _ => true
  | .object _ => true
  | _ => false

/-- Scalars have a literal, compounds have none. -/
theorem Json.isCompound_eq (j : Json) : j.isCompound = (Literal.ofJson? j).isNone := by
  cases j <;> rfl

/-- All data in a list have a literal if there is no compound among them. -/
theorem Literal.mapM_ofJson? (js : List Json) :
    js.mapM ofJson? = if js.any Json.isCompound then none else some (js.filterMap ofJson?) := by
  induction js with
  | nil => rfl
  | cons j js ih =>
    rw [List.mapM_cons, List.any_cons, List.filterMap_cons, Json.isCompound_eq, ih]
    cases ofJson? j with
    -- the first of the data is a compound, and there is no set of literals
    | none => rfl
    | some l => cases js.any Json.isCompound <;> rfl

namespace PatternSpec

/-- Without a compound in the list, a choice is a set of literals; with one, it is a disjunction. -/
theorem oneOfPattern_eq (js : List Json) :
    (oneOfPattern js : Pattern ε)
      = if js.any Json.isCompound then .anyOf (js.map Pattern.ofJson)
        else .oneOf (js.filterMap Literal.ofJson?) := by
  rw [oneOfPattern, Literal.mapM_ofJson?]
  cases js.any Json.isCompound <;> rfl

/-! ### What is accepted -/

variable (o : MatchOptions) (v : Value)

/-- **A choice is the disjunction of equalities**, in either form and under any options. -/
theorem accepts_oneOf_eq_anyOf (js : List Json) :
    (((oneOf js).toPattern : Pattern ε).compile o).accepts v
      = (((anyOf (js.map equals)).toPattern : Pattern ε).compile o).accepts v := by
  rw [accepts_compile_toPattern, accepts_compile_toPattern, satisfiedBy, satisfiedBy,
    anySatisfiedBy_eq_any, List.any_map]
  rfl

/-- A choice accepts what equality with one of its members accepts. -/
theorem accepts_oneOf_iff (js : List Json) :
    ((((oneOf js).toPattern : Pattern ε).compile o).accepts v).value = true ↔
      ∃ j ∈ js, ((((equals j).toPattern : Pattern ε).compile o).accepts v).value = true := by
  simp only [accepts_compile_toPattern, Traced.value_pure, satisfiedBy, List.any_eq_true]

/-- A member that is inserted is one more alternative. -/
theorem accepts_oneOf_insert_iff (front back : List Json) (k : Json) :
    ((((oneOf (front ++ k :: back)).toPattern : Pattern ε).compile o).accepts v).value = true ↔
      ((((oneOf (front ++ back)).toPattern : Pattern ε).compile o).accepts v).value = true ∨
        ((((equals k).toPattern : Pattern ε).compile o).accepts v).value = true := by
  rw [accepts_oneOf_iff, accepts_oneOf_iff]
  simp only [List.mem_append, List.mem_cons, or_and_right, exists_or, exists_eq_left]
  -- the inserted alternative comes last
  rw [or_left_comm, or_comm]

/-- **A choice among JSON data is a disjunction of equalities.** Compiled under any options, it
tests a value as the disjunction of the declarations of equality with its members does, and accepts
it if and only if one of these does.

A member that is inserted at any place of the list is one more alternative. This is so even when a
compound comes into a list of scalars, and a set of literals becomes a disjunction of templates. -/
theorem oneOf_is_anyOf_equals (o : MatchOptions) :
    (∀ (js : List Json) (v : Value),
      (((oneOf js).toPattern : Pattern ε).compile o).accepts v
        = (((anyOf (js.map equals)).toPattern : Pattern ε).compile o).accepts v ∧
      (((((oneOf js).toPattern : Pattern ε).compile o).accepts v).value = true ↔
        ∃ j ∈ js, ((((equals j).toPattern : Pattern ε).compile o).accepts v).value = true)) ∧
    ∀ (front back : List Json) (k : Json),
      (∀ v : Value,
        ((((oneOf (front ++ k :: back)).toPattern : Pattern ε).compile o).accepts v).value = true ↔
          ((((oneOf (front ++ back)).toPattern : Pattern ε).compile o).accepts v).value = true ∨
            ((((equals k).toPattern : Pattern ε).compile o).accepts v).value = true) ∧
      ((∀ j ∈ front ++ back, j.isCompound = false) → k.isCompound = true →
        ((oneOf (front ++ back)).toPattern : Pattern ε)
            = .oneOf ((front ++ back).filterMap Literal.ofJson?) ∧
          ((oneOf (front ++ k :: back)).toPattern : Pattern ε)
            = .anyOf ((front ++ k :: back).map Pattern.ofJson)) := by
  refine ⟨fun js v => ⟨accepts_oneOf_eq_anyOf o v js, accepts_oneOf_iff o v js⟩, ?_⟩
  intro front back k
  refine ⟨fun v => accepts_oneOf_insert_iff o v front back k, fun hscalars hk => ⟨?_, ?_⟩⟩
  -- scalars before the insertion
  · have hnone : ¬ (front ++ back).any Json.isCompound = true := by
      rw [List.any_eq_true]
      rintro ⟨j, hj, hcompound⟩
      rw [hscalars j hj] at hcompound
      cases hcompound
    rw [toPattern, oneOfPattern_eq, if_neg hnone]
  -- a compound among them afterwards
  · have hsome : (front ++ k :: back).any Json.isCompound = true :=
      List.any_eq_true.2 ⟨k, List.mem_append_right _ List.mem_cons_self, hk⟩
    rw [toPattern, oneOfPattern_eq, if_pos hsome]

/-- An object comes between two scalars, the first of them an integer that is no double. Before and
after that, the list has the double nearest to it. -/
theorem oneOf_is_anyOf_equals_at_object :
    let n : Json := .number (.int 0x20000000000001)
    let k : Json := .object [("kind", .string "B")]
    let v : Value := .number (.ofInt 0x20000000000000)
    ((oneOf [n, .null]).toPattern : Pattern Unit)
        = .oneOf [.number (.ofInt 0x20000000000000), .null] ∧
      ((oneOf [n, k, .null]).toPattern : Pattern Unit)
        = .anyOf ([n, k, .null].map Pattern.ofJson) ∧
      ((((oneOf [n, .null]).toPattern : Pattern Unit).compile {}).accepts v).value = true ∧
      ((((oneOf [n, k, .null]).toPattern : Pattern Unit).compile {}).accepts v).value = true := by
  intro n k v
  obtain ⟨hchoice, hinsert⟩ := oneOf_is_anyOf_equals (ε := Unit) {}
  obtain ⟨haccepts, hforms⟩ := hinsert [n] [.null] k
  obtain ⟨hscalars, hcompound⟩ := hforms
    (List.forall_mem_cons.2 ⟨rfl, List.forall_mem_singleton.2 rfl⟩) rfl
  have hn : ((((oneOf [n, .null]).toPattern : Pattern Unit).compile {}).accepts v).value = true :=
    (hchoice [n, .null] v).2.2 ⟨n, List.mem_cons_self, rfl⟩
  exact ⟨hscalars, hcompound, hn, (haccepts v).2 (.inl hn)⟩

end PatternSpec

end Casewise
