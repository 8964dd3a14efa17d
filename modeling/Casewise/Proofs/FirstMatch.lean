import Casewise.Proofs.Registration

/-!
# The first matching clause decides

A run tests its clauses from the front. The clause that accepts first is reported and its handler
called on the input; clauses behind it are not tested, and no other handler is called. If no clause
accepts, the terminal has the last word.

* `Clause.firstMatch_append_of_rejects`, `Clause.firstMatch_cons_of_accepts` — the search, one
  stretch of rejecting clauses at a time: it emits what their tests emit, and then what the clause
  that fires emits.
* `Terminal.settled`, `Terminal.missed` — what each terminal makes of a result, and what it does
  without one.
* `Matcher.first_match_decides` — outcome and trace of every matcher that a program builds, on every
  input.

The events of a run are given in full, so the statement also says what does not happen: a handler of
another clause, a second test or an early fallback would leave their events behind.
-/

namespace Casewise

variable {τ ρ : Type}

/-! ### The search -/

namespace Clause

/-- What testing these clauses emits, one after the other. -/
def testEvents (input : Value) (cs : List (Clause τ ρ)) : List (Event τ) :=
  cs.flatMap fun c => (c.accepts input).events

/-- **Rejecting clauses are passed over.** They are tested once each and in order, and the search
goes on behind them with the next number. -/
theorem firstMatch_append_of_rejects {input : Value} {before : List (Clause τ ρ)}
    (hbefore : ∀ c ∈ before, (c.accepts input).value = false) (index : Nat)
    (cs : List (Clause τ ρ)) :
    firstMatch input index (before ++ cs)
      = ⟨(firstMatch input (index + before.length) cs).value,
          testEvents input before ++ (firstMatch input (index + before.length) cs).events⟩ := by
  induction before generalizing index with
  | nil => rfl
  | cons c before ih =>
    obtain ⟨hc, hrest⟩ := List.forall_mem_cons.1 hbefore
    have hnext : index + (c :: before).length = index + 1 + before.length := by
      rw [List.length_cons, Nat.add_comm before.length, Nat.add_assoc]
    -- the first of the rejecting clauses is tested, and the number goes up by one
    have hstep : firstMatch input index (c :: before ++ cs)
        = ⟨(firstMatch input (index + 1) (before ++ cs)).value,
            (c.accepts input).events ++ (firstMatch input (index + 1) (before ++ cs)).events⟩ := by
      rw [List.cons_append, firstMatch]
      refine Traced.ext ?_ ?_
      · rw [Traced.value_bind, hc, if_neg Bool.false_ne_true]
      · rw [Traced.events_bind, hc, if_neg Bool.false_ne_true]
    rw [hstep, ih hrest, hnext, testEvents, testEvents, List.flatMap_cons, List.append_assoc]

/-- **The accepting clause ends the search.** It is tested, reported under its number, and its
handler is called once, on the input; what stands behind it plays no part. -/
theorem firstMatch_cons_of_accepts {input : Value} {c : Clause τ ρ}
    (hc : (c.accepts input).value = true) (index : Nat) (after : List (Clause τ ρ)) :
    firstMatch input index (c :: after)
      = ⟨some (c.apply input).value,
          (c.accepts input).events ++ .report (.clauseMatched index)
            :: (c.apply input).events⟩ := by
  -- what follows an accepting test: the report, and then the handler
  have hfire : (do
      Traced.emit (.report (.clauseMatched index))
      return some (← c.apply input) : Traced (Event τ) (Option ρ))
      = ⟨some (c.apply input).value,
          .report (.clauseMatched index) :: ((c.apply input).events ++ [])⟩ := rfl
  rw [firstMatch, hfire, List.append_nil]
  refine Traced.ext ?_ ?_
  · rw [Traced.value_bind, hc, if_pos rfl]
  · rw [Traced.events_bind, hc, if_pos rfl]

/-- If every clause rejects the input, each is tested once and nothing else happens. -/
theorem firstMatch_of_rejects {input : Value} {cs : List (Clause τ ρ)}
    (hcs : ∀ c ∈ cs, (c.accepts input).value = false) (index : Nat) :
    firstMatch input index cs = ⟨none, testEvents input cs⟩ := by
  have h := firstMatch_append_of_rejects hcs index []
  rw [List.append_nil] at h
  rw [h]
  exact Traced.ext rfl (List.append_nil _)

/-- The search finds a result exactly if some clause accepts. -/
theorem isSome_firstMatch (input : Value) (index : Nat) (cs : List (Clause τ ρ)) :
    (firstMatch input index cs).value.isSome = true ↔ ∃ c ∈ cs, (c.accepts input).value = true := by
  induction cs generalizing index with
  | nil => simp [firstMatch]
  | cons c cs ih =>
    cases hc : (c.accepts input).value with
    | true =>
      -- whatever the handler gives, there is a result
      rw [firstMatch_cons_of_accepts hc]
      exact ⟨fun _ => ⟨c, List.mem_cons_self, hc⟩, fun _ => rfl⟩
    | false =>
      -- a clause that rejects is passed over, and the others decide
      have honly : ∀ d ∈ [c], (d.accepts input).value = false := by
        intro d hd
        rw [List.mem_singleton.1 hd, hc]
      have hsplit := firstMatch_append_of_rejects honly index cs
      rw [List.singleton_append] at hsplit
      simp only [hsplit, List.mem_cons, exists_eq_or_imp, hc, Bool.false_eq_true, false_or]
      exact ih _

end Clause

/-! ### What a terminal adds -/

namespace Terminal

/-- The outcome of a run in which a handler gave `r`. -/
def settled : Terminal τ ρ → ρ → Outcome ρ
  | .exhaustive, r => .ok r
  | .orElseAbsurd, r => .ok r
  | .orElse _, r => .value r
  | .optional, r => .present r
  | .either, r => .ok r

/-- The end of a run in which no clause fired: two terminals fail and report it, one calls its
fallback on the input, and two hand on the absence of a result. -/
def missed : Terminal τ ρ → Value → Traced (Event τ) (Outcome ρ)
  | .exhaustive, input =>
    ⟨.failed (.unmatched input.display), [.report (.unmatched input.display)]⟩
  | .orElseAbsurd, input => ⟨.failed .absurd, [.report (.absurd input.display)]⟩
  | .orElse fallback, input => ⟨.value (fallback input).value, (fallback input).events⟩
  | .optional, _ => ⟨.absent, []⟩
  | .either, input => ⟨.rejected input, []⟩

/-- With a result at hand no terminal emits anything, and no fallback is called. -/
theorem finish_some (t : Terminal τ ρ) (input : Value) (r : ρ) :
    t.finish input (some r) = ⟨t.settled r, []⟩ := by
  cases t <;> rfl

/-- Without a result a terminal does what it has for a miss. -/
theorem finish_none (t : Terminal τ ρ) (input : Value) : t.finish input none = t.missed input := by
  -- a fallback is called here; the other terminals have all they need
  cases t with
  | orElse fallback => exact Traced.ext rfl (List.append_nil _)
  | _ => rfl

end Terminal

/-! ### Runs of a matcher -/

namespace Entry

/-- What testing these entries emits, one after the other. -/
def testEvents (o : MatchOptions) (input : Value) (es : List (Entry τ ρ)) : List (Event τ) :=
  es.flatMap fun e => (e.asks o input).events

/-- Testing compiled entries emits what testing the entries does. -/
theorem testEvents_map_clause (o : MatchOptions) (input : Value) (es : List (Entry τ ρ)) :
    Clause.testEvents input (es.map (clause o)) = testEvents o input es := by
  rw [Clause.testEvents, List.flatMap_map, testEvents]
  exact congrArg es.flatMap (funext fun e => congrArg Traced.events (accepts_clause o e input))

/-- Entries that reject an input reject it as clauses. -/
theorem forall_mem_map_clause {o : MatchOptions} {input : Value} {es : List (Entry τ ρ)}
    (h : ∀ e ∈ es, (e.asks o input).value = false) :
    ∀ c ∈ es.map (clause o), (c.accepts input).value = false := by
  intro c hc
  obtain ⟨e, he, rfl⟩ := List.mem_map.1 hc
  rw [accepts_clause]
  exact h e he

end Entry

namespace Matcher

/-- A run on an input that some entry accepts, the entries before it having rejected it. -/
theorem run_of_accepts {o : MatchOptions} {input : Value} {before : List (Entry τ ρ)}
    {e : Entry τ ρ} (hbefore : ∀ d ∈ before, (d.asks o input).value = false)
    (he : (e.asks o input).value = true) (after : List (Entry τ ρ)) (t : Terminal τ ρ) :
    run ⟨(before ++ e :: after).map (Entry.clause o), t⟩ input
      = ⟨t.settled (e.handler input).value,
          Entry.testEvents o input (before ++ [e]) ++ .report (.clauseMatched before.length)
            :: (e.handler input).events⟩ := by
  -- the search in terms of clauses: over the rejecting ones, then into the one that accepts
  have hclause : ((e.clause o).accepts input).value = true := by rw [Entry.accepts_clause, he]
  have hsearch := Clause.firstMatch_append_of_rejects (Entry.forall_mem_map_clause hbefore) 0
    ((e :: after).map (Entry.clause o))
  rw [List.map_cons, Clause.firstMatch_cons_of_accepts hclause, List.length_map, Nat.zero_add,
    Entry.testEvents_map_clause, Entry.accepts_clause, Entry.apply_clause] at hsearch
  have hevents : Entry.testEvents o input (before ++ [e])
      = Entry.testEvents o input before ++ (e.asks o input).events := by
    rw [Entry.testEvents, Entry.testEvents, List.flatMap_append, List.flatMap_singleton]
  rw [run, List.map_append, List.map_cons, hsearch, hevents]
  refine Traced.ext ?_ ?_
  · rw [Traced.value_bind, Terminal.finish_some]
  · rw [Traced.events_bind, Terminal.finish_some, List.append_nil, List.append_assoc]

/-- A run on an input that every entry rejects. -/
theorem run_of_rejects {o : MatchOptions} {input : Value} {es : List (Entry τ ρ)}
    (hes : ∀ e ∈ es, (e.asks o input).value = false) (t : Terminal τ ρ) :
    run ⟨es.map (Entry.clause o), t⟩ input
      = ⟨(t.missed input).value, Entry.testEvents o input es ++ (t.missed input).events⟩ := by
  -- the search comes back empty, and what it emitted are the tests
  rw [run, Clause.firstMatch_of_rejects (Entry.forall_mem_map_clause hes),
    Entry.testEvents_map_clause]
  refine Traced.ext ?_ ?_
  · rw [Traced.value_bind, Terminal.finish_none]
  · rw [Traced.events_bind, Terminal.finish_none]

/-- The same with the accepting entry found by its position, the least one that accepts. -/
theorem run_of_least {o : MatchOptions} {input : Value} {es : List (Entry τ ρ)} {i : Nat}
    {e : Entry τ ρ} (hi : es[i]? = some e) (he : (e.asks o input).value = true)
    (hleast : ∀ d ∈ es.take i, (d.asks o input).value = false) (t : Terminal τ ρ) :
    run ⟨es.map (Entry.clause o), t⟩ input
      = ⟨t.settled (e.handler input).value,
          Entry.testEvents o input (es.take (i + 1)) ++ .report (.clauseMatched i)
            :: (e.handler input).events⟩ := by
  obtain ⟨hlt, hget⟩ := List.getElem?_eq_some_iff.1 hi
  -- the position cuts the list into what is before the entry, the entry, and the rest
  have hsplit : es.take i ++ e :: es.drop (i + 1) = es := by
    rw [← hget, ← List.drop_eq_getElem_cons hlt, List.take_append_drop]
  have hlen : (es.take i).length = i := by
    rw [List.length_take, Nat.min_eq_left (Nat.le_of_lt hlt)]
  have hrun := run_of_accepts hleast he (es.drop (i + 1)) t
  rw [hsplit, hlen] at hrun
  rw [hrun, List.take_add_one, hi, Option.toList_some]

/-- **The first match wins, exactly once.** A program that is closed with a terminal makes one
clause of each of its entries, in order. On an input that the entry at `i` is the first to accept,
the run tests the entries up to `i` once each and in order, reports `i`, calls the handler of that
entry on the input and ends as the terminal has it for that result. On an input that every entry
rejects, the run tests all of them once and in order and ends as the terminal has it for a miss. -/
theorem first_match_decides (o : MatchOptions) (steps : List (Step τ ρ)) (t : Terminal τ ρ)
    (input : Value) :
    ∃ m : Matcher τ ρ,
      (MatcherBuilder.ofSteps o steps).finish t
        = ⟨m, [.report (.finalized (Entry.ofSteps o steps).length t.name)]⟩ ∧
      m.clauses = (Entry.ofSteps o steps).map (Entry.clause o) ∧
      m.clauseCount = (Entry.ofSteps o steps).length ∧
      (∀ (i : Nat) (e : Entry τ ρ), (Entry.ofSteps o steps)[i]? = some e →
        (e.asks o input).value = true →
        (∀ d ∈ (Entry.ofSteps o steps).take i, (d.asks o input).value = false) →
        m.run input = ⟨t.settled (e.handler input).value,
          Entry.testEvents o input ((Entry.ofSteps o steps).take (i + 1)) ++
            .report (.clauseMatched i) :: (e.handler input).events⟩) ∧
      ((∀ e ∈ Entry.ofSteps o steps, (e.asks o input).value = false) →
        m.run input = ⟨(t.missed input).value,
          Entry.testEvents o input (Entry.ofSteps o steps) ++ (t.missed input).events⟩) := by
  have hbuilt := MatcherBuilder.ofSteps_eq o steps
  refine ⟨⟨(Entry.ofSteps o steps).map (Entry.clause o), t⟩, ?_, rfl, List.length_map _, ?_, ?_⟩
  · rw [hbuilt, MatcherBuilder.finish, List.length_map]
    rfl
  · intro i e hi he hleast
    exact run_of_least hi he hleast t
  · intro hrejects
    exact run_of_rejects hrejects t

/-- The third of three entries decides, the second and third of which stand inside a pipe. -/
theorem first_match_decides_in_pipe :
    ∃ m : Matcher Unit Nat,
      m.clauseCount = 3 ∧
      m.run (.string "x") = ⟨.ok 3, [.report (.clauseMatched 2), .mark ()]⟩ := by
  obtain ⟨m, -, -, hcount, hhit, -⟩ := first_match_decides {}
    [.when .number fun _ => return 1,
      .pipe [.tags [(.string "A", fun _ => return 2)], .withReturnType,
        .when .defined fun _ => ⟨3, [.mark ()]⟩]]
    .exhaustive (.string "x")
  have hleast : ∀ d ∈ [(⟨.number, fun _ => return 1⟩ : Entry Unit Nat),
      ⟨.tagged "_tag" [.string "A"], fun _ => return 2⟩],
      (d.asks {} (.string "x")).value = false :=
    List.forall_mem_cons.2 ⟨rfl, List.forall_mem_cons.2 ⟨rfl, fun _ h => nomatch h⟩⟩
  exact ⟨m, hcount, hhit 2 ⟨.defined, fun _ => ⟨3, [.mark ()]⟩⟩ rfl rfl hleast⟩

end Matcher

end Casewise
