import Casewise.Proofs.HandlerCalls
import Casewise.Proofs.Strengthening

/-!
# Dead clauses

A clause is dead behind other clauses if one of those accepts whatever it accepts. The search then
never ends at it: either it ends in front, or the clause rejects the input as well and is passed
over.

* `Matcher.ends_alike_of_deadBehind` — its handler is not called in any run, and without it every
  run ends alike and calls the same handlers on the same input.
* `Matcher.run_eq_of_deadBehind` — what its handler would do has no part in any run.
* `Matcher.stronger_clause_is_dead` — a clause is dead behind a clause of which it is a
  strengthening.

A run without the clause is not the same to the last event: a dead clause is still tested, and it
counts in the numbers that are reported of the clauses after it.
-/

namespace Casewise

variable {τ ρ : Type}

namespace Clause

/-- Whatever `d` accepts, a clause in front of it accepts. -/
def DeadBehind (front : List (Clause τ ρ)) (d : Clause τ ρ) : Prop :=
  ∀ input, (d.accepts input).value = true → ∃ c ∈ front, (c.accepts input).value = true

variable {front : List (Clause τ ρ)} {d : Clause τ ρ}

/-- Where the clauses in front reject, so does the dead one. -/
theorem DeadBehind.rejects (h : d.DeadBehind front) {input : Value}
    (hfront : ∀ c ∈ front, (c.accepts input).value = false) : (d.accepts input).value = false := by
  rw [Bool.eq_false_iff]
  intro hd
  obtain ⟨c, hc, haccepts⟩ := h input hd
  -- a clause in front would accept what it is known to reject
  rw [hfront c hc] at haccepts
  cases haccepts

/-- Where the clauses in front and some clauses behind reject, the dead one among them does too. -/
theorem DeadBehind.rejects_append (h : d.DeadBehind front) {input : Value}
    (hfront : ∀ c ∈ front, (c.accepts input).value = false) {cs : List (Clause τ ρ)}
    (hcs : ∀ c ∈ cs, (c.accepts input).value = false) :
    ∀ c ∈ front ++ d :: cs, (c.accepts input).value = false :=
  List.forall_mem_append.2 ⟨hfront, List.forall_mem_cons.2 ⟨h.rejects hfront, hcs⟩⟩

/-- A clause is dead behind any that accepts all that it accepts. -/
theorem deadBehind_of_mem {c : Clause τ ρ} (hc : c ∈ front)
    (h : ∀ input, (d.accepts input).value = true → (c.accepts input).value = true) :
    d.DeadBehind front :=
  fun input hd => ⟨c, hc, h input hd⟩

end Clause

namespace Matcher

section DeadBehind

variable {front : List (Clause τ ρ)} {d : Clause τ ρ} (h : d.DeadBehind front)
  (after : List (Clause τ ρ)) (t : Terminal τ ρ) (input : Value)

include h

/-- With a dead clause and without it, a run ends alike and calls the same handlers on the same
input. The search ends in front of the clause, or behind it, or nowhere, and in none of these cases
does the clause make a difference. -/
theorem ends_alike_of_deadBehind :
    (run ⟨front ++ d :: after, t⟩ input).value = (run ⟨front ++ after, t⟩ input).value ∧
      (handlerCalls ⟨front ++ d :: after, t⟩ input).map HandlerCall.action
        = (handlerCalls ⟨front ++ after, t⟩ input).map HandlerCall.action ∧
      ∀ call ∈ handlerCalls ⟨front ++ d :: after, t⟩ input, call.clause? ≠ some front.length := by
  rcases Clause.rejects_or_splits input front with
    hfront | ⟨before, c, rest, rfl, hbefore, hc⟩
  · rcases Clause.rejects_or_splits input after with
      hafter | ⟨before, c, rest, rfl, hbefore, hc⟩
    · -- nowhere: with the clause and without it, the terminal decides
      have hwith := h.rejects_append hfront hafter
      have hwithout := List.forall_mem_append.2 ⟨hfront, hafter⟩
      rw [value_run_of_rejects hwith, value_run_of_rejects hwithout,
        handlerCalls_of_rejects hwith, handlerCalls_of_rejects hwithout]
      refine ⟨rfl, rfl, fun call hcall => ?_⟩
      cases t with
      | orElse fallback =>
        cases List.mem_singleton.1 hcall
        exact nofun
      | _ => cases hcall
    · -- behind the dead clause, with a position that is one less without it
      have hwith := h.rejects_append hfront hbefore
      have hwithout := List.forall_mem_append.2 ⟨hfront, hbefore⟩
      have hsplit : front ++ d :: (before ++ c :: rest) = front ++ d :: before ++ c :: rest := by
        rw [List.append_assoc, List.cons_append]
      rw [hsplit, ← List.append_assoc front before, value_run_of_accepts hwith hc,
        value_run_of_accepts hwithout hc, handlerCalls_of_accepts hwith hc,
        handlerCalls_of_accepts hwithout hc]
      refine ⟨rfl, rfl, fun call hcall => ?_⟩
      cases List.mem_singleton.1 hcall
      simp
  · -- in front of the dead clause, which is not reached
    rw [List.append_assoc, List.append_assoc, List.cons_append, List.cons_append,
      value_run_of_accepts hbefore hc, value_run_of_accepts hbefore hc,
      handlerCalls_of_accepts hbefore hc, handlerCalls_of_accepts hbefore hc]
    refine ⟨rfl, rfl, fun call hcall => ?_⟩
    cases List.mem_singleton.1 hcall
    simp

/-- What the handler of a dead clause would do has no part in a run, neither in its outcome nor in
its trace. -/
theorem run_eq_of_deadBehind (handler : Handler τ ρ) :
    run ⟨front ++ { d with handler } :: after, t⟩ input = run ⟨front ++ d :: after, t⟩ input := by
  suffices hsearch : Clause.firstMatch input 0 (front ++ { d with handler } :: after)
      = Clause.firstMatch input 0 (front ++ d :: after) by
    rw [run, run, hsearch]
  rcases Clause.rejects_or_splits input front with
    hfront | ⟨before, c, rest, rfl, hbefore, hc⟩
  · -- the clause is passed over together with those in front of it, whatever its handler
    have hpassed : ∀ c ∈ front ++ [d], (c.accepts input).value = false :=
      h.rejects_append hfront (List.forall_mem_nil _)
    have hpassed' : ∀ c ∈ front ++ [{ d with handler }], (c.accepts input).value = false := by
      rw [List.forall_mem_append, List.forall_mem_singleton] at hpassed ⊢
      exact hpassed
    have hevents : Clause.testEvents input (front ++ [{ d with handler }])
        = Clause.testEvents input (front ++ [d]) := by
      unfold Clause.testEvents
      rw [List.flatMap_append, List.flatMap_append]
      rfl
    rw [List.append_cons front d, List.append_cons front { d with handler },
      Clause.firstMatch_append_of_rejects hpassed, Clause.firstMatch_append_of_rejects hpassed',
      hevents, List.length_append, List.length_append]
    rfl
  · -- the search ends in front
    rw [List.append_assoc, List.append_assoc, List.cons_append, List.cons_append,
      Clause.firstMatch_of_accepts hbefore hc, Clause.firstMatch_of_accepts hbefore hc]

end DeadBehind

/-- **A more specific clause behind a more general one is dead.** Let the pattern `p'` be a
strengthening of `p`. Under all options, whatever the compiled `p'` accepts, the compiled `p`
accepts. So if a clause for `p'` stands anywhere behind a clause for `p`, in no run under any
terminal is its handler called or would another handler in its place make a difference; and the
clauses without it make runs that end alike, with the same calls of the other handlers. -/
theorem stronger_clause_is_dead {p p' : Pattern (Event τ)} (h : p'.IsStrengtheningOf p)
    (o : MatchOptions) :
    (∀ v, ((p'.compile o).accepts v).value = true → ((p.compile o).accepts v).value = true) ∧
    ∀ (f g : Handler τ ρ) (front after : List (Clause τ ρ)) (t : Terminal τ ρ) (input : Value),
      Clause.of o p f ∈ front →
        (∀ call ∈ handlerCalls ⟨front ++ Clause.of o p' g :: after, t⟩ input,
          call.clause? ≠ some front.length) ∧
        (∀ g' : Handler τ ρ, run ⟨front ++ Clause.of o p' g' :: after, t⟩ input
          = run ⟨front ++ Clause.of o p' g :: after, t⟩ input) ∧
        (run ⟨front ++ Clause.of o p' g :: after, t⟩ input).value
          = (run ⟨front ++ after, t⟩ input).value ∧
        (handlerCalls ⟨front ++ Clause.of o p' g :: after, t⟩ input).map HandlerCall.action
          = (handlerCalls ⟨front ++ after, t⟩ input).map HandlerCall.action := by
  have haccepts : ∀ v, ((p'.compile o).accepts v).value = true →
      ((p.compile o).accepts v).value = true := fun v => h.accepts o
  refine ⟨haccepts, fun f g front after t input hfront => ?_⟩
  -- the clause in front that makes it dead is the one of the weaker pattern
  have hdead : (Clause.of o p' g).DeadBehind front := Clause.deadBehind_of_mem hfront haccepts
  obtain ⟨houtcome, hcalls, hposition⟩ := ends_alike_of_deadBehind hdead after t input
  exact ⟨hposition, fun g' => run_eq_of_deadBehind hdead after t input g', houtcome, hcalls⟩

/-- A longer beginning in a template, and one literal more below a negation in it, make a clause
that is dead: on an input that it accepts, the handler of the clause in front of it is called. -/
theorem stronger_clause_is_dead_in_template :
    let p : Pattern (Event Unit) := .fields
      [(.string "kind", .startsWith "a"), (.string "id", .not (.oneOf [.string "x"]))]
    let p' : Pattern (Event Unit) := .fields
      [(.string "kind", .startsWith "ab"), (.string "id", .not (.oneOf [.string "x", .string "y"]))]
    let front : List (Clause Unit Nat) := [Clause.of {} p fun _ => return 1]
    let input : Value :=
      .object ⟨none, [(.string "kind", .string "abc"), (.string "id", .string "z")]⟩
    ((p'.compile {}).accepts input).value = true ∧
      (∀ call ∈ handlerCalls ⟨front ++ [Clause.of {} p' fun _ => return 2], .optional⟩ input,
        call.clause? ≠ some 1) ∧
      (run ⟨front ++ [Clause.of {} p' fun _ => return 2], .optional⟩ input).value = .present 1 := by
  intro p p' front input
  -- the beginning of a string, which stands below no negation, is made longer
  have hkind : p.StrengthenedBy (.fields
      [(.string "kind", .startsWith "ab"), (.string "id", .not (.oneOf [.string "x"]))]) :=
    ⟨0, _, _, .fields (.string "kind") [] _ .self, .inl ⟨rfl, .startsWith rfl⟩⟩
  -- the set of literals stands below one negation, so here it is the larger one that asks for more
  have hid : (.fields
      [(.string "kind", .startsWith "ab"), (.string "id", .not (.oneOf [.string "x"]))] :
        Pattern (Event Unit)).StrengthenedBy p' :=
    ⟨1, _, _, .fields (.string "id") [_] [] (.not .self),
      .inr ⟨rfl, .oneOf (List.sublist_append_left [_] [_])⟩⟩
  have h : p'.IsStrengtheningOf p := .tail (.single hkind) hid
  obtain ⟨hcalls, -, houtcome, -⟩ := (stronger_clause_is_dead (ρ := Nat) h {}).2
    (fun _ => return 1) (fun _ => return 2) front [] .optional input List.mem_cons_self
  exact ⟨rfl, hcalls, houtcome.trans rfl⟩

end Matcher

end Casewise
