import Casewise.Proofs.FirstMatch

/-!
# The handlers that a run calls

What a handler emits need not tell that it was called. To see the calls of a run, every handler and
the fallback are made to emit their own call in place of what they emit, with the position of the
clause, and the tests are kept as answers only. The matcher with these parts runs as any other does,
and the marks in its trace are the calls:

* `Matcher.announced` — the matcher whose handlers announce themselves.
* `Matcher.handlerCalls` — the calls of handlers in a run, in order.
* `Matcher.handlerCalls_of_accepts`, `Matcher.handlerCalls_of_rejects` — the handler of the first
  clause that accepts is called once, on the input, and otherwise the fallback, if there is one.
* `Matcher.value_run_of_accepts`, `Matcher.value_run_of_rejects` — the outcomes of the same runs.
* `Matcher.accepts_of_mem_handlerCalls` — read backwards: the handler of a clause is called
  only on an input that the clause accepts.

Every list of clauses falls under one of the two cases (`Clause.rejects_or_splits`).
-/

namespace Casewise

variable {τ ρ : Type}

/-- A call of a handler. -/
structure HandlerCall (τ ρ : Type) where
  /-- the position of the clause whose handler it is; the fallback has none -/
  clause? : Option Nat
  handler : Handler τ ρ
  input : Value

/-- The call without the position of the clause. -/
def HandlerCall.action (call : HandlerCall τ ρ) : Handler τ ρ × Value := (call.handler, call.input)

/-- The handler that gives the result of `h` and emits its own call instead of what `h` emits. -/
def Handler.announced (clause? : Option Nat) (h : Handler τ ρ) : Handler (HandlerCall τ ρ) ρ :=
  fun v => ⟨(h v).value, [.mark ⟨clause?, h, v⟩]⟩

namespace Clause

/-- The clause with a handler that announces itself. Its test answers as before and emits
nothing. -/
def announced (position : Nat) (c : Clause τ ρ) : Clause (HandlerCall τ ρ) ρ where
  test := .guard (.ofBool fun v => (c.accepts v).value)
  handler := .announced (some position) c.handler

/-- An announced clause answers as the clause does, in silence. -/
theorem accepts_announced (position : Nat) (c : Clause τ ρ) (input : Value) :
    (c.announced position).accepts input = pure (c.accepts input).value := rfl

/-- An announced handler gives the same result, and its call is all that it emits. -/
theorem apply_announced (position : Nat) (c : Clause τ ρ) (input : Value) :
    (c.announced position).apply input
      = ⟨(c.apply input).value, [.mark ⟨some position, c.handler, input⟩]⟩ := rfl

/-- An announced clause among these is one of them, announced. -/
theorem exists_of_mem_mapIdx_announced {cs : List (Clause τ ρ)} {d : Clause (HandlerCall τ ρ) ρ}
    (hd : d ∈ cs.mapIdx announced) : ∃ i, ∃ c ∈ cs, d = c.announced i := by
  obtain ⟨i, hi, rfl⟩ := List.mem_mapIdx.1 hd
  exact ⟨i, cs[i], List.getElem_mem hi, rfl⟩

/-- Clauses that reject an input reject it when they are announced. -/
theorem forall_mem_mapIdx_announced {input : Value} {cs : List (Clause τ ρ)}
    (hcs : ∀ c ∈ cs, (c.accepts input).value = false) :
    ∀ d ∈ cs.mapIdx announced, (d.accepts input).value = false := by
  intro d hd
  obtain ⟨i, c, hc, rfl⟩ := exists_of_mem_mapIdx_announced hd
  exact hcs c hc

/-- Announced clauses are tested silently. -/
theorem testEvents_mapIdx_announced (input : Value) (cs : List (Clause τ ρ)) :
    testEvents input (cs.mapIdx announced) = [] := by
  rw [testEvents, List.flatMap_eq_nil_iff]
  intro d hd
  obtain ⟨i, c, -, rfl⟩ := exists_of_mem_mapIdx_announced hd
  rw [accepts_announced, Traced.events_pure]

/-- Either no clause accepts, or there is a first one that does. -/
theorem rejects_or_splits (input : Value) (cs : List (Clause τ ρ)) :
    (∀ c ∈ cs, (c.accepts input).value = false) ∨
      ∃ before c after, cs = before ++ c :: after ∧
        (∀ d ∈ before, (d.accepts input).value = false) ∧ (c.accepts input).value = true := by
  -- the first clause that accepts, as the library searches for it
  cases hfind : cs.find? fun c => (c.accepts input).value with
  | none =>
    left
    intro c hc
    exact Bool.eq_false_iff.2 (List.find?_eq_none.1 hfind c hc)
  | some c =>
    right
    obtain ⟨haccepts, before, after, rfl, hbefore⟩ := List.find?_eq_some_iff_append.1 hfind
    refine ⟨before, c, after, rfl, fun d hd => ?_, haccepts⟩
    have hd := hbefore d hd
    rwa [Bool.not_eq_true'] at hd

/-- The search through clauses of which the first that accepts is known. -/
theorem firstMatch_of_accepts {input : Value} {before : List (Clause τ ρ)} {c : Clause τ ρ}
    (hbefore : ∀ d ∈ before, (d.accepts input).value = false)
    (hc : (c.accepts input).value = true) (after : List (Clause τ ρ)) :
    firstMatch input 0 (before ++ c :: after)
      = ⟨some (c.apply input).value,
          testEvents input before ++ ((c.accepts input).events ++
            .report (.clauseMatched before.length) :: (c.apply input).events)⟩ := by
  rw [firstMatch_append_of_rejects hbefore, firstMatch_cons_of_accepts hc, Nat.zero_add]

end Clause

namespace Terminal

/-- The terminal with a fallback that announces itself. -/
def announced : Terminal τ ρ → Terminal (HandlerCall τ ρ) ρ
  | .exhaustive => .exhaustive
  | .orElseAbsurd => .orElseAbsurd
  | .orElse fallback => .orElse (.announced none fallback)
  | .optional => .optional
  | .either => .either

/-- The call of the fallback on an input that no clause accepts. -/
def fallbackCalls : Terminal τ ρ → Value → List (HandlerCall τ ρ)
  | .orElse fallback, input => [⟨none, fallback, input⟩]
  | _, _ => []

/-- Apart from a call of the fallback a terminal makes no calls. -/
theorem filterMap_mark?_missed_announced (t : Terminal τ ρ) (input : Value) :
    (t.announced.missed input).events.filterMap Event.mark? = t.fallbackCalls input := by
  cases t <;> rfl

end Terminal

namespace Matcher

/-- The matcher whose handlers and whose fallback announce themselves. -/
def announced (m : Matcher τ ρ) : Matcher (HandlerCall τ ρ) ρ :=
  ⟨m.clauses.mapIdx Clause.announced, m.terminal.announced⟩

/-- The calls of handlers in a run, in order. -/
def handlerCalls (m : Matcher τ ρ) (input : Value) : List (HandlerCall τ ρ) :=
  (m.announced.run input).events.filterMap Event.mark?

section FirstAccepts

variable {input : Value} {before : List (Clause τ ρ)} {c : Clause τ ρ}

/-- The outcome is what the terminal makes of the result of the first clause that accepts. -/
theorem value_run_of_accepts (hbefore : ∀ d ∈ before, (d.accepts input).value = false)
    (hc : (c.accepts input).value = true) (after : List (Clause τ ρ)) (t : Terminal τ ρ) :
    (run ⟨before ++ c :: after, t⟩ input).value = t.settled (c.apply input).value := by
  rw [run, Clause.firstMatch_of_accepts hbefore hc, Traced.value_bind, Terminal.finish_some]

/-- The handler of the first clause that accepts is called, once and on the input. -/
theorem handlerCalls_of_accepts (hbefore : ∀ d ∈ before, (d.accepts input).value = false)
    (hc : (c.accepts input).value = true) (after : List (Clause τ ρ)) (t : Terminal τ ρ) :
    handlerCalls ⟨before ++ c :: after, t⟩ input = [⟨some before.length, c.handler, input⟩] := by
  -- the announced clauses answer alike, so the search ends at the same one
  have hsearch := Clause.firstMatch_of_accepts (c := c.announced before.length)
    (Clause.forall_mem_mapIdx_announced hbefore) hc
    (after.mapIdx fun i => Clause.announced (i + 1 + before.length))
  rw [Clause.testEvents_mapIdx_announced, Clause.accepts_announced, Clause.apply_announced,
    Traced.events_pure, List.length_mapIdx, List.nil_append, List.nil_append] at hsearch
  rw [handlerCalls, announced, run, List.mapIdx_append, List.mapIdx_cons, Nat.zero_add, hsearch,
    Traced.events_bind, Terminal.finish_some]
  rfl

end FirstAccepts

/-- If no clause accepts, the outcome is what the terminal has for a miss. -/
theorem value_run_of_rejects {input : Value} {cs : List (Clause τ ρ)}
    (hcs : ∀ c ∈ cs, (c.accepts input).value = false) (t : Terminal τ ρ) :
    (run ⟨cs, t⟩ input).value = (t.missed input).value := by
  rw [run, Clause.firstMatch_of_rejects hcs, Traced.value_bind, Terminal.finish_none]

/-- If no clause accepts, the fallback is called, if there is one, and nothing else. -/
theorem handlerCalls_of_rejects {input : Value} {cs : List (Clause τ ρ)}
    (hcs : ∀ c ∈ cs, (c.accepts input).value = false) (t : Terminal τ ρ) :
    handlerCalls ⟨cs, t⟩ input = t.fallbackCalls input := by
  -- the announced clauses reject as well, so all marks come from the terminal
  rw [handlerCalls, announced, run,
    Clause.firstMatch_of_rejects (Clause.forall_mem_mapIdx_announced hcs),
    Clause.testEvents_mapIdx_announced, Traced.events_bind, Terminal.finish_none, List.nil_append,
    Terminal.filterMap_mark?_missed_announced]

/-- Where the handler of a clause is called, the clause accepts, and the call is on the input. -/
theorem accepts_of_mem_handlerCalls {front : List (Clause τ ρ)} {c : Clause τ ρ}
    {after : List (Clause τ ρ)} {t : Terminal τ ρ} {input : Value} {call : HandlerCall τ ρ}
    (hcall : call ∈ handlerCalls ⟨front ++ c :: after, t⟩ input)
    (hposition : call.clause? = some front.length) :
    (c.accepts input).value = true ∧ call.handler = c.handler ∧ call.input = input := by
  rcases Clause.rejects_or_splits input (front ++ c :: after) with
    hrejects | ⟨before, d, rest, hsplit, hbefore, hd⟩
  · -- the only call there can be is one of the fallback, which has no position
    rw [handlerCalls_of_rejects hrejects] at hcall
    cases t with
    | orElse fallback =>
      cases List.mem_singleton.1 hcall
      cases hposition
    | _ => cases hcall
  · -- the call is that of the clause where the search ends, and by its position this is `c`
    rw [hsplit, handlerCalls_of_accepts hbefore hd] at hcall
    cases List.mem_singleton.1 hcall
    have hlength : front.length = before.length := (Option.some.inj hposition).symm
    obtain ⟨-, hsame⟩ := List.append_inj hsplit hlength
    obtain ⟨rfl, -⟩ := List.cons.inj hsame
    exact ⟨hd, rfl, rfl⟩

end Matcher

end Casewise
