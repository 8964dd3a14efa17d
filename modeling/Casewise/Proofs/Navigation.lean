import Casewise.Pattern.Template
import Casewise.Proofs.Answers
import Casewise.Proofs.HandlerCalls

/-!
# Templates and navigation

A template finds the properties that it asks about by one look-up and a handler reads them by
another one. The first (`Value.property?`) knows what is not there, and the treatment of missing
properties decides then; the second (`Value.get`) gives `undefined` and can be repeated. The two
lead to the same values, however deep the templates are written one inside the other:

* `Template.meaning_toPattern` — a tree of templates is tested along its paths, from the first leaf
  to the last: each of the leaf patterns is asked of the value that is read by following the keys,
  provided that the treatment permits every step on the way;
* `Template.admits_toPattern_iff` — the answers of the same tests;
* `Template.accepts_iff_along_paths` — the same for compiled patterns, and for the values that a
  handler reads when its clause has fired.

That every inner node lists a property matters: a template without properties asks the value at its
place to be object-like, and no path goes through it.
-/

namespace Casewise

variable {ε : Type}

/-! ### Two look-ups -/

/-- Only what is object-like has properties. -/
theorem Value.isObjectLike_of_hasProperty {v : Value} {key : PropertyKey}
    (h : v.hasProperty key = true) : v.isObjectLike = true := by
  cases v with
  | object r => rfl
  | error r => rfl
  | _ => cases h

namespace MissingFields

variable {missing : MissingFields} {v : Value} {key : PropertyKey}

/-- No treatment permits a step from a value without properties. -/
theorem isObjectLike_of_permits (h : missing.permits v key = true) : v.isObjectLike = true := by
  cases missing with
  | reject => exact Value.isObjectLike_of_hasProperty h
  | undefined => exact h

/-- **The look-ups agree.** What a template asks about a property is asked of the value that `get`
gives, if the treatment permits to go there, and fails otherwise. -/
theorem ask_eq_get (hlike : v.isObjectLike = true) (test : Value → Traced ε Bool) :
    missing.ask v key test
      = if missing.permits v key then test (v.get key) else pure false := by
  unfold ask permits Value.hasProperty Value.get
  cases hprop : v.property? key with
  | some w =>
    -- the property is there, and so `v` is object-like whatever the treatment asks of it
    cases missing with
    | reject => rfl
    | undefined => exact (if_pos hlike).symm
  | none =>
    cases missing with
    | reject => rfl
    | undefined => exact (if_pos hlike).symm

end MissingFields

/-! ### Along the paths -/

namespace Template

/-- The question that a tree puts along a path: to the value behind the keys, if the treatment
permits to go there. -/
def Path.asks (missing : MissingFields) (v : Value) (path : Path ε) : Traced ε Bool :=
  if missing.permitsAll v path.keys then path.pattern.meaning missing (v.follow path.keys)
  else pure false

/-- A path through a branch is the step to the branch and then the rest of the path. -/
theorem Path.asks_below (missing : MissingFields) (v : Value) (key : PropertyKey) (path : Path ε) :
    (path.below key).asks missing v
      = if missing.permits v key then path.asks missing (v.get key) else pure false := by
  rw [asks, asks, below, MissingFields.permitsAll, Value.follow_cons]
  cases missing.permits v key <;> rfl

/-- There is a leaf. -/
theorem paths_ne_nil (t : Template ε) : t.paths ≠ [] := by
  induction t with
  | leaf p => exact List.cons_ne_nil _ _
  -- a node has a first branch, and there is a leaf in it
  | node key child rest ih =>
    intro h
    rw [paths, List.append_eq_nil_iff, List.map_eq_nil_iff] at h
    exact ih (key, child) List.mem_cons_self h.1

/-- The paths through one branch make the test of the branch. -/
private theorem all_asks_below {t : Template ε} {missing : MissingFields} {v : Value}
    {key : PropertyKey}
    (ih : t.toPattern.meaning missing (v.get key)
      = Traced.all (Path.asks missing (v.get key)) t.paths) :
    Traced.all (Path.asks missing v) (t.paths.map (.below key))
      = if missing.permits v key then t.toPattern.meaning missing (v.get key) else pure false := by
  rw [Traced.all_map]
  by_cases hpermits : missing.permits v key = true
  · rw [if_pos hpermits, ih]
    refine Traced.all_congr fun path _ => ?_
    rw [Path.asks_below, if_pos hpermits]
  · -- the step to the branch is not permitted, and all paths through the branch begin with it
    rw [if_neg hpermits]
    refine Traced.all_of_pure_false t.paths_ne_nil fun path _ => ?_
    rw [Path.asks_below, if_neg hpermits]

/-- **A tree of templates is the list of its paths.** Its test puts the questions along the paths,
from the first leaf to the last and up to the first that fails. -/
theorem meaning_toPattern (missing : MissingFields) (t : Template ε) (v : Value) :
    t.toPattern.meaning missing v = Traced.all (Path.asks missing v) t.paths := by
  induction t generalizing v with
  | leaf p =>
    rw [paths, Traced.all_singleton]
    rfl
  | node key child rest ih =>
    -- branch by branch, and in each branch by the induction hypothesis
    have hpaths : Traced.all (Path.asks missing v) (node key child rest).paths
        = Traced.all (fun b : PropertyKey × Template ε =>
            if missing.permits v b.1 then b.2.toPattern.meaning missing (v.get b.1)
            else pure false) ((key, child) :: rest) := by
      rw [paths_node, Traced.all_flatMap]
      exact Traced.all_congr fun b hb => all_asks_below (ih b hb (v.get b.1))
    rw [hpaths, toPattern_node, Pattern.meaning, Pattern.meaningFields_eq_all, Traced.all_map]
    by_cases hlike : v.isObjectLike = true
    · rw [if_pos hlike]
      exact Traced.all_congr fun b _ => MissingFields.ask_eq_get hlike _
    · -- a value that is not object-like is refused at once, and it permits no step either
      rw [if_neg hlike]
      refine (Traced.all_of_pure_false (List.cons_ne_nil _ _) fun b _ => ?_).symm
      exact if_neg fun hpermits => hlike (MissingFields.isObjectLike_of_permits hpermits)

variable {missing : MissingFields} {t : Template ε} {v : Value}

/-- A tree admits a value if each leaf admits the value behind its keys, and all steps are
permitted. -/
theorem admits_toPattern_iff :
    t.toPattern.admits missing v = true ↔
      ∀ path ∈ t.paths, path.pattern.admits missing (v.follow path.keys) = true ∧
        missing.permitsAll v path.keys = true := by
  rw [Pattern.admits, meaning_toPattern, Traced.value_all, List.all_eq_true]
  refine forall₂_congr fun path _ => ?_
  rw [Path.asks, Pattern.admits]
  cases missing.permitsAll v path.keys <;> simp

/-- Where a tree admits a value, its test is that of the leaf patterns on the values behind their
keys. -/
theorem meaning_toPattern_of_admits (h : t.toPattern.admits missing v = true) :
    t.toPattern.meaning missing v
      = Traced.all (fun path => path.pattern.meaning missing (v.follow path.keys)) t.paths := by
  rw [meaning_toPattern]
  refine Traced.all_congr fun path hpath => ?_
  rw [Path.asks, if_pos (admits_toPattern_iff.1 h path hpath).2]

end Template

/-! ### Handlers -/

section Handlers

variable {τ ρ : Type}

/-- A matcher that has its input is settled by a clause only if the clause accepts, and then with
the result of the handler. -/
theorem BoundMatcher.accepts_of_register {b : BoundMatcher τ ρ} (hb : b.result? = none)
    {p : Pattern (Event τ)} {h : Handler τ ρ} {r : ρ}
    (hr : (b.register p h).value.result? = some r) :
    ((p.compile b.options).accepts b.input).value = true ∧ r = (h b.input).value := by
  rw [value_register_of_none hb] at hr
  obtain ⟨haccepts, hresult⟩ := Option.ite_none_right_eq_some.1 hr
  exact ⟨haccepts, (Option.some.inj hresult).symm⟩

/-- **A nested template agrees with navigation.** The compiled pattern of a tree of templates
accepts a value exactly if, for each path of the tree, the compiled leaf pattern accepts the value
that is read by following the keys, and every step on the way is permitted: the property is there
where missing properties are rejected, and the value is object-like where they are tested as
`undefined`. If it accepts, it has tested the leaf patterns on these values, in order, and nothing
else. So when a clause for the tree fires, its handler is called on the input and reads, behind the
keys of each path, the value that the leaf pattern has accepted. -/
theorem Template.accepts_iff_along_paths (t : Template (Event τ)) (o : MatchOptions) :
    (∀ v, ((t.toPattern.compile o).accepts v).value = true ↔
      ∀ path ∈ t.paths, ((path.pattern.compile o).accepts (v.follow path.keys)).value = true ∧
        ∀ (i : Nat) key, path.keys[i]? = some key →
          o.missingFields.permits (v.follow (path.keys.take i)) key = true) ∧
    (∀ v, ((t.toPattern.compile o).accepts v).value = true →
      (t.toPattern.compile o).accepts v
        = Traced.all (fun path => (path.pattern.compile o).accepts (v.follow path.keys)) t.paths) ∧
    (∀ (h : Handler τ ρ) (front after : List (Clause τ ρ)) (last : Terminal τ ρ) (input : Value),
      ∀ call ∈ Matcher.handlerCalls ⟨front ++ Clause.of o t.toPattern h :: after, last⟩ input,
        call.clause? = some front.length →
          call.handler = h ∧ call.input = input ∧ ∀ path ∈ t.paths,
            ((path.pattern.compile o).accepts (call.input.follow path.keys)).value = true) ∧
    ∀ (h : Handler τ ρ) (input : Value) (n : Nat) (r : ρ),
      (Cases.when (m := Traced (Event τ)) (⟨input, none, n, o⟩ : BoundMatcher τ ρ)
        t.toPattern h).value.result? = some r →
          r = (h input).value ∧ ∀ path ∈ t.paths,
            ((path.pattern.compile o).accepts (input.follow path.keys)).value = true := by
  -- what an accepted value is at the ends of the paths
  have hleaves : ∀ v, ((t.toPattern.compile o).accepts v).value = true → ∀ path ∈ t.paths,
      ((path.pattern.compile o).accepts (v.follow path.keys)).value = true := by
    intro v hv path hpath
    rw [Pattern.value_accepts_compile] at hv ⊢
    exact (admits_toPattern_iff.1 hv path hpath).1
  refine ⟨?_, ?_, ?_, ?_⟩
  · intro v
    -- the steps of a path are permitted one by one, or all at once
    simp only [Pattern.value_accepts_compile, ← MissingFields.permitsAll_iff]
    exact admits_toPattern_iff
  · intro v hv
    rw [Pattern.value_accepts_compile] at hv
    simp only [Pattern.accepts_compile]
    exact meaning_toPattern_of_admits hv
  · intro h front after last input call hcall hposition
    -- the call of a clause is made on the input, which the clause has accepted
    obtain ⟨haccepts, hhandler, hinput⟩ := Matcher.accepts_of_mem_handlerCalls hcall hposition
    refine ⟨hhandler, hinput, ?_⟩
    rw [hinput]
    exact hleaves input haccepts
  · intro h input n r hr
    have hregister : ((⟨input, none, n, o⟩ : BoundMatcher τ ρ).register t.toPattern h).value.result?
        = some r := hr
    obtain ⟨haccepts, hresult⟩ := BoundMatcher.accepts_of_register rfl hregister
    exact ⟨hresult, hleaves input haccepts⟩

/-- Two leaves below one property: a string, and a property that is missing and tested as
`undefined`. The clause fires, and its handler finds `undefined` behind the second path, both in a
matcher built ahead and in one that has its input. -/
theorem Template.accepts_along_two_paths :
    let t : Template (Event Unit) := .node (.string "user")
      (.node (.string "name") (.leaf .string) [(.string "age", .leaf .undefined)]) []
    let o : MatchOptions := { missingFields := .undefined }
    let h : Handler Unit Value := fun v => return v.follow [.string "user", .string "age"]
    let input : Value := .object ⟨none, [(.string "user", .object ⟨none,
      [(.string "name", .string "Tim")]⟩)]⟩
    ((t.toPattern.compile o).accepts input).value = true ∧
      (t.toPattern.compile o).accepts input = Traced.all (fun path =>
        (path.pattern.compile o).accepts (input.follow path.keys)) t.paths ∧
      (∃ call ∈ Matcher.handlerCalls ⟨[Clause.of o t.toPattern h], .exhaustive⟩ input,
        call.input = input ∧
        ((Pattern.undefined.compile o : CompiledPattern (Event Unit)).accepts
          (call.input.follow [.string "user", .string "age"])).value = true) ∧
      ∃ r, (Cases.when (m := Traced (Event Unit)) (⟨input, none, 0, o⟩ : BoundMatcher Unit Value)
        t.toPattern h).value.result? = some r ∧ r = (h input).value := by
  intro t o h input
  obtain ⟨hiff, htests, hfires, hsettles⟩ := accepts_iff_along_paths (ρ := Value) t o
  have hname : o.missingFields.permitsAll input [.string "user", .string "name"] = true := rfl
  have hage : o.missingFields.permitsAll input [.string "user", .string "age"] = true := rfl
  have haccepts : ((t.toPattern.compile o).accepts input).value = true := by
    refine (hiff input).2 (List.forall_mem_cons.2 ⟨⟨rfl, ?_⟩, List.forall_mem_singleton.2 ?_⟩)
    · exact (MissingFields.permitsAll_iff _ _ _).1 hname
    · exact ⟨rfl, (MissingFields.permitsAll_iff _ _ _).1 hage⟩
  have hcall : ⟨some 0, h, input⟩ ∈
      Matcher.handlerCalls ⟨[Clause.of o t.toPattern h], .exhaustive⟩ input :=
    List.mem_singleton.2 rfl
  obtain ⟨-, hinput, hleaves⟩ := hfires h [] [] .exhaustive input _ hcall rfl
  have hlast : (⟨[.string "user", .string "age"], .undefined⟩ : Path (Event Unit)) ∈ t.paths :=
    List.mem_cons_of_mem _ List.mem_cons_self
  exact ⟨haccepts, htests input haccepts, ⟨_, hcall, hinput, hleaves _ hlast⟩, _, rfl,
    (hsettles h input 0 _ rfl).1⟩

end Handlers

end Casewise
