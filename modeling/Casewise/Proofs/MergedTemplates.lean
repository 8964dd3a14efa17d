import Casewise.Proofs.Navigation

/-!
# Templates that are asked for together

Asking for several templates at once is asking for all of their properties at once. A conjunction of
templates is the template of the properties of all of them, in order, and two patterns under one key
are their conjunction under it:

* `Pattern.meaning_allOf_fields` — the conjunction and the merged template are one test, down to
  every event; `Pattern.guardCalls_allOf_fields` — and they call the same guards.
* `Pattern.admits_fields_merge` — a key that is listed twice may be listed once.

So two templates that disagree about what stands behind one list of keys make a conjunction that
nothing satisfies. This follows from navigation: both ask about the one value that is read by
following the keys (`Pattern.not_admits_allOf_of_conflict`).

* `Pattern.conjoined_templates_merge` — the laws for compiled patterns, and that a clause for
  conflicting templates never fires.

At least one template is needed: the empty conjunction accepts everything, and the template without
properties only what is object-like.
-/

namespace Casewise

variable {ε : Type}

/-! ### The merged template -/

namespace Pattern

/-- **A conjunction of templates is the merged template.** The properties are asked about in the
order of the templates; a value that is not object-like is refused by the first of them, before any
guard is called. -/
theorem meaning_allOf_fields {fss : List (List (PropertyKey × Pattern ε))} (hne : fss ≠ [])
    (missing : MissingFields) (v : Value) :
    (allOf (fss.map fields)).meaning missing v = (fields fss.flatten).meaning missing v := by
  have htemplates : (allOf (fss.map fields)).meaning missing v
      = Traced.all (fun fs => (fields fs).meaning missing v) fss := by
    rw [meaning, meaningAll_eq_all, Traced.all_map]
  rw [htemplates, meaning, meaningFields_eq_all]
  -- a template looks whether the value is object-like before it asks for a property
  by_cases hlike : v.isObjectLike = true
  · rw [if_pos hlike, ← List.flatMap_id, Traced.all_flatMap]
    refine Traced.all_congr fun fs _ => ?_
    rw [meaning, if_pos hlike, meaningFields_eq_all]
    rfl
  · rw [if_neg hlike]
    refine Traced.all_of_pure_false hne fun fs _ => ?_
    rw [meaning, if_neg hlike]

/-- The same guards are called, on the same values and in the same order. -/
theorem guardCalls_allOf_fields {fss : List (List (PropertyKey × Pattern ε))} (hne : fss ≠ [])
    (missing : MissingFields) (v : Value) :
    (allOf (fss.map fields)).guardCalls missing v = (fields fss.flatten).guardCalls missing v := by
  -- with announced guards the two are again a conjunction of templates and the merged template
  have hconjunction : (allOf (fss.map fields)).mapGuards Predicate.announced
      = allOf ((fss.map (mapGuardsFields .announced)).map fields) := by
    rw [mapGuards, mapGuardsEach_eq_map, List.map_map, List.map_map]
    rfl
  have hmerged : (fields fss.flatten).mapGuards Predicate.announced
      = fields (fss.map (mapGuardsFields .announced)).flatten := by
    rw [mapGuards, mapGuardsFields_eq_map, List.map_flatten]
    exact congrArg (fields ·.flatten)
      (List.map_congr_left fun fs _ => (mapGuardsFields_eq_map _ fs).symm)
  have hne' : fss.map (mapGuardsFields Predicate.announced) ≠ [] :=
    fun h => hne (List.map_eq_nil_iff.1 h)
  rw [guardCalls, guardCalls, hconjunction, hmerged, meaning_allOf_fields hne']

end Pattern

/-! ### A key that is listed twice -/

/-- Two tests of one property. -/
theorem MissingFields.holdsAt_and (missing : MissingFields) (v : Value) (key : PropertyKey)
    (test test' : Value → Bool) :
    missing.holdsAt v key (fun w => test w && test' w)
      = (missing.holdsAt v key test && missing.holdsAt v key test') := by
  unfold holdsAt
  cases v.property? key with
  | some w => rfl
  -- a missing property fails both tests, or both are of `undefined`
  | none => cases missing <;> rfl

namespace Pattern

/-- A property passes a conjunction of two patterns if it passes both. -/
theorem holdsAt_allOf_pair (missing : MissingFields) (v : Value) (key : PropertyKey)
    (p q : Pattern ε) :
    missing.holdsAt v key ((allOf [p, q]).admits missing) = true ↔
      missing.holdsAt v key (p.admits missing) = true ∧
        missing.holdsAt v key (q.admits missing) = true := by
  have hpair : (allOf [p, q]).admits missing
      = fun w => p.admits missing w && q.admits missing w := by
    funext w
    rw [Bool.eq_iff_iff, admits_allOf_iff, Bool.and_eq_true, List.forall_mem_cons,
      List.forall_mem_singleton]
  rw [hpair, MissingFields.holdsAt_and, Bool.and_eq_true]

/-- **A key may be listed once.** Two patterns under one key, whatever stands between them, are
their conjunction under it. -/
theorem admits_fields_merge (missing : MissingFields) (v : Value) (key : PropertyKey)
    (p q : Pattern ε) (xs ys zs : List (PropertyKey × Pattern ε)) :
    (fields (xs ++ [(key, p)] ++ ys ++ [(key, q)] ++ zs)).admits missing v
      = (fields (xs ++ [(key, allOf [p, q])] ++ ys ++ zs)).admits missing v := by
  rw [Bool.eq_iff_iff, admits_fields_iff, admits_fields_iff]
  refine and_congr_right fun _ => ?_
  -- the order of the properties is of no account for the answer
  simp only [List.forall_mem_append, List.forall_mem_singleton, holdsAt_allOf_pair]
  constructor
  · rintro ⟨⟨⟨⟨hxs, hp⟩, hys⟩, hq⟩, hzs⟩
    exact ⟨⟨⟨hxs, hp, hq⟩, hys⟩, hzs⟩
  · rintro ⟨⟨⟨hxs, hp, hq⟩, hys⟩, hzs⟩
    exact ⟨⟨⟨⟨hxs, hp⟩, hys⟩, hq⟩, hzs⟩

/-! ### Conflicts -/

/-- What a single path admits has a value behind the keys that the leaf admits. -/
theorem admits_follow_of_admits_chain {missing : MissingFields} {keys : List PropertyKey}
    {p : Pattern ε} {v : Value} (h : (Template.chain keys p).toPattern.admits missing v = true) :
    p.admits missing (v.follow keys) = true := by
  have hpaths := Template.admits_toPattern_iff.1 h
  rw [Template.paths_chain, List.forall_mem_singleton] at hpaths
  exact hpaths.1

/-- **Conflicting templates exclude each other.** Both of them ask about the value behind the same
keys, and no value is both literals. -/
theorem not_admits_allOf_of_conflict {l l' : Literal}
    (hconflict : ∀ w, ¬(l.strictEquals w = true ∧ l'.strictEquals w = true))
    {keys : List PropertyKey} {ps : List (Pattern ε)}
    (hl : (Template.chain keys (.literal l)).toPattern ∈ ps)
    (hl' : (Template.chain keys (.literal l')).toPattern ∈ ps) (missing : MissingFields)
    (v : Value) : (allOf ps).admits missing v = false := by
  rw [Bool.eq_false_iff]
  intro hall
  have hboth := (admits_allOf_iff missing v ps).1 hall
  -- both chains end at the same place, so both literals are compared with one value
  have hfirst := admits_follow_of_admits_chain (hboth _ hl)
  have hsecond := admits_follow_of_admits_chain (hboth _ hl')
  exact hconflict (v.follow keys) ⟨hfirst, hsecond⟩

end Pattern

/-! ### Clauses -/

section Clauses

variable {τ ρ : Type}

/-- The clause of a conjunction that accepts no value never fires, whatever is registered before and
after it. -/
theorem MatcherBuilder.whenAnd_not_called {o : MatchOptions} {ps : List (Pattern (Event τ))}
    (hps : ∀ v, (((Pattern.allOf ps).compile o).accepts v).value = false) (h : Handler τ ρ)
    (clauses : List (Clause τ ρ)) (later : List (Step τ ρ)) (t : Terminal τ ρ) (input : Value) :
    ∀ call ∈ Matcher.handlerCalls ((Id.run (Step.runAll (.whenAnd ps h :: later)
        (⟨clauses, o⟩ : MatcherBuilder τ ρ))).finish t).value input,
      call.clause? ≠ some clauses.length := by
  intro call hcall hposition
  -- the clause stands behind the ones that are there and before the ones that come later
  have hbuilt : ((Id.run (Step.runAll (.whenAnd ps h :: later)
        (⟨clauses, o⟩ : MatcherBuilder τ ρ))).finish t).value
      = ⟨clauses ++ Clause.of o (.allOf ps) h :: (Entry.ofSteps o later).map (Entry.clause o),
          t⟩ := by
    rw [runAll_eq]
    rfl
  rw [hbuilt] at hcall
  obtain ⟨haccepts, -, -⟩ := Matcher.accepts_of_mem_handlerCalls hcall hposition
  have hrejects : ((Clause.of o (.allOf ps) h).accepts input).value = false := hps input
  rw [hrejects] at haccepts
  cases haccepts

/-- **Templates that are asked for together merge, and conflicting ones never fire.** Compiled under
any options, a conjunction of templates is the template of all their properties: the same answer,
the same events, and the same calls of guards in the same order; and a template with two patterns
under one key answers as the template with their conjunction under it. If no value is strictly equal
to both of two literals, then a clause for a conjunction that asks for both of them behind one list
of keys accepts nothing: in a matcher built ahead its handler is not called on any input, wherever
the clause stands, and a matcher that has its input tests the clause, counts it and stays open. -/
theorem Pattern.conjoined_templates_merge (o : MatchOptions) :
    (∀ fss : List (List (PropertyKey × Pattern (Event τ))), fss ≠ [] → ∀ v,
      ((allOf (fss.map fields)).compile o).accepts v = ((fields fss.flatten).compile o).accepts v ∧
        ((allOf (fss.map fields)).compile o).guardCalls v
          = ((fields fss.flatten).compile o).guardCalls v) ∧
    (∀ (key : PropertyKey) (p q : Pattern (Event τ))
      (xs ys zs : List (PropertyKey × Pattern (Event τ))) (v : Value),
      (((fields (xs ++ [(key, p)] ++ ys ++ [(key, q)] ++ zs)).compile o).accepts v).value
        = (((fields (xs ++ [(key, allOf [p, q])] ++ ys ++ zs)).compile o).accepts v).value) ∧
    ∀ (keys : List PropertyKey) (l l' : Literal),
      (∀ w, ¬(l.strictEquals w = true ∧ l'.strictEquals w = true)) →
      ∀ ps : List (Pattern (Event τ)), (Template.chain keys (.literal l)).toPattern ∈ ps →
        (Template.chain keys (.literal l')).toPattern ∈ ps →
        (∀ v, (((allOf ps).compile o).accepts v).value = false) ∧
        (∀ (h : Handler τ ρ) (clauses : List (Clause τ ρ)) (later : List (Step τ ρ))
          (t : Terminal τ ρ) (input : Value),
          ∀ call ∈ Matcher.handlerCalls ((Id.run (Step.runAll (.whenAnd ps h :: later)
              (⟨clauses, o⟩ : MatcherBuilder τ ρ))).finish t).value input,
            call.clause? ≠ some clauses.length) ∧
        ∀ (h : Handler τ ρ) (input : Value) (n : Nat),
          Cases.whenAnd (⟨input, none, n, o⟩ : BoundMatcher τ ρ) ps h
            = (⟨⟨input, none, n + 1, o⟩, (((allOf ps).compile o).accepts input).events⟩ :
              Traced (Event τ) (BoundMatcher τ ρ)) := by
  refine ⟨?_, ?_, ?_⟩
  · intro fss hne v
    rw [accepts_compile, accepts_compile, meaning_allOf_fields hne, guardCalls_compile,
      guardCalls_compile, guardCalls_allOf_fields hne]
    exact ⟨rfl, rfl⟩
  · intro key p q xs ys zs v
    rw [value_accepts_compile, value_accepts_compile, admits_fields_merge]
  · intro keys l l' hconflict ps hl hl'
    have hrejects : ∀ v, (((allOf ps).compile o).accepts v).value = false := by
      intro v
      rw [value_accepts_compile]
      exact not_admits_allOf_of_conflict hconflict hl hl' o.missingFields v
    refine ⟨hrejects, MatcherBuilder.whenAnd_not_called hrejects, ?_⟩
    intro h input n
    exact BoundMatcher.register_of_rejects (b := ⟨input, none, n, o⟩) rfl (hrejects input) h

/-- Two names for one user, asked for between other patterns: the clause for them, registered
behind another clause, is not called. The two templates merged are accepted by nothing either. -/
theorem Pattern.conjoined_templates_of_two_names :
    let keys : List PropertyKey := [.string "user", .string "name"]
    let tim : Pattern (Event Unit) := (Template.chain keys (.literal (.string "Tim"))).toPattern
    let joe : Pattern (Event Unit) := (Template.chain keys (.literal (.string "Joe"))).toPattern
    let input : Value := .object ⟨none, [(.string "user", .object ⟨none,
      [(.string "name", .string "Tim")]⟩)]⟩
    let front : List (Clause Unit Nat) := [Clause.of {} .string fun _ => return 1]
    ((tim.compile {}).accepts input).value = true ∧
      (∀ call ∈ Matcher.handlerCalls ((Id.run (Step.runAll
          [.whenAnd [.defined, tim, joe] fun _ => return 2, .when .defined fun _ => return 3]
          (⟨front, {}⟩ : MatcherBuilder Unit Nat))).finish .exhaustive).value input,
        call.clause? ≠ some 1) ∧
      ((allOf [tim, joe]).compile {}).accepts input
        = ((fields [
            (.string "user", .fields [(.string "name", .literal (.string "Tim"))]),
            (.string "user", .fields [(.string "name", .literal (.string "Joe"))])]).compile
              {}).accepts input := by
  intro keys tim joe input front
  -- only strings are equal to a string, and no string is equal to both
  have hconflict : ∀ w,
      ¬((Literal.string "Tim").strictEquals w = true ∧
        (Literal.string "Joe").strictEquals w = true) := by
    rintro w ⟨htim, hjoe⟩
    cases w with
    | string s =>
      have hs : "Tim" = s := beq_iff_eq.1 htim
      subst hs
      exact absurd hjoe (by decide)
    | _ => cases htim
  obtain ⟨hmerge, -, hnever⟩ := conjoined_templates_merge (τ := Unit) (ρ := Nat) {}
  obtain ⟨-, hcalls, -⟩ := hnever keys _ _ hconflict [.defined, tim, joe]
    (List.mem_cons_of_mem _ List.mem_cons_self)
    (List.mem_cons_of_mem _ (List.mem_cons_of_mem _ List.mem_cons_self))
  have hsame := hmerge [[(.string "user", .fields [(.string "name", .literal (.string "Tim"))])],
    [(.string "user", .fields [(.string "name", .literal (.string "Joe"))])]]
    (List.cons_ne_nil _ _) input
  exact ⟨rfl, hcalls _ front _ .exhaustive input, hsame.1⟩

end Clauses

end Casewise
