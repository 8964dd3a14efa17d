import Casewise.Proofs.Agreement

/-!
# Runs of a program, apart from numbers

Two programs may register different clauses and still do the same on every input. What remains
different then are numbers: how many clauses there are, and the position of the clause that is
reported.

* `Traced.unnumbered` — a run with these numbers taken out.
* `Entry.search` — the search through the entries of a program without numbers. Both builders come
  to it (`Step.unnumbered_runAhead`, `Step.unnumbered_runBound`). It goes through a list in parts
  (`Entry.search_append`), so one part may be exchanged for another one that is searched with the
  same effects (`Entry.search_exchange`).
* `Step.callsAhead`, `Step.callsBound` — the guards and handlers that the run of a program calls, in
  order. To see them, guards and handlers are exchanged for some that record their own calls and
  emit nothing else. Nothing is lost by that: spelling the calls out gives back the run
  (`Step.expand_runBound_recorded`).
* `Step.RunsAlike`, `Step.RunsAlikeOn` — two programs run alike: as matchers built ahead and as
  matchers that have their input, under every terminal, and on every input or on one. They do if
  their recorded entries are searched with the same effects (`Step.runsAlikeOn_of_search`).
-/

namespace Casewise

/-! ### Numbers taken out -/

/-- The report without the number of clauses or the position of a clause. -/
def Report.unnumbered : Report → Report
  | .finalized _ terminal => .finalized 0 terminal
  | .clauseMatched _ => .clauseMatched 0
  | r => r

variable {τ ρ : Type}

/-- The event without such a number. Marks have none. -/
def Event.unnumbered : Event τ → Event τ
  | .mark m => .mark m
  | .report r => .report r.unnumbered

namespace Traced

variable {α β : Type}

/-- The run with the numbers taken out of its reports. -/
def unnumbered (t : Traced (Event τ) α) : Traced (Event τ) α := t.expand fun e => [e.unnumbered]

@[simp] theorem unnumbered_pure (a : α) : (pure a : Traced (Event τ) α).unnumbered = pure a := rfl

/-- Numbers are taken out of the parts of a run one after the other. -/
theorem unnumbered_bind (t : Traced (Event τ) α) (f : α → Traced (Event τ) β) :
    (t >>= f).unnumbered = t.unnumbered >>= fun a => (f a).unnumbered :=
  expand_bind _ t f

theorem unnumbered_emit (e : Event τ) : (emit e).unnumbered = emit e.unnumbered := rfl

/-- So they are out of the tests of a list. -/
theorem unnumbered_any (test : β → Traced (Event τ) Bool) (bs : List β) :
    (any test bs).unnumbered = any (fun b => (test b).unnumbered) bs :=
  expand_any _ test bs

/-- The marks are left where they are. -/
theorem filterMap_mark?_unnumbered (t : Traced (Event τ) α) :
    t.unnumbered.events.filterMap Event.mark? = t.events.filterMap Event.mark? := by
  have hevents : t.unnumbered.events = t.events.map Event.unnumbered := List.map_eq_flatMap.symm
  have hmark : (Event.mark? ∘ Event.unnumbered : Event τ → Option τ) = Event.mark? := by
    funext e
    cases e <;> rfl
  rw [hevents, List.filterMap_map, hmark]

end Traced

/-! ### The search without numbers -/

namespace Entry

variable (o : MatchOptions) (input : Value)

/-- The result of the first entry that accepts, whatever its position. -/
def search : List (Entry τ ρ) → Traced (Event τ) (Option ρ)
  | [] => return none
  | e :: es => do
    if ← (e.asks o input).unnumbered then
      Traced.emit (.report (.clauseMatched 0))
      return some (← (e.handler input).unnumbered)
    else search es

/-- The search through compiled entries, with the numbers taken out. -/
theorem unnumbered_firstMatch (index : Nat) (es : List (Entry τ ρ)) :
    (Clause.firstMatch input index (es.map (clause o))).unnumbered = search o input es := by
  induction es generalizing index with
  | nil => rfl
  | cons e es ih =>
    rw [List.map_cons, Clause.firstMatch, search, Traced.unnumbered_bind, accepts_clause]
    refine bind_congr fun accepted => ?_
    cases accepted with
    -- the position is in the report alone, and that is taken out of it
    | true =>
      simp only [if_true, Traced.unnumbered_bind, Traced.unnumbered_emit, Traced.unnumbered_pure]
      rfl
    | false =>
      simp only [Bool.false_eq_true, if_false]
      exact ih (index + 1)

/-- The second part of a list is searched if there is no result in the first. -/
theorem search_append (es fs : List (Entry τ ρ)) :
    search o input (es ++ fs) = (do
      match ← search o input es with
      | some r => return some r
      | none => search o input fs) := by
  induction es with
  | nil => rw [List.nil_append, search, pure_bind]
  | cons e es ih =>
    rw [List.cons_append, search, search, bind_assoc]
    -- the first entry ends the search, or it goes on in what is left of the first part
    refine bind_congr fun accepted => ?_
    cases accepted with
    | true => simp only [if_true, bind_assoc, pure_bind]
    | false =>
      simp only [Bool.false_eq_true, if_false]
      exact ih

/-- A part of a list may be exchanged for one that is searched with the same effects. -/
theorem search_exchange {es es' : List (Entry τ ρ)} (h : search o input es = search o input es')
    (before after : List (Entry τ ρ)) :
    search o input (before ++ es ++ after) = search o input (before ++ es' ++ after) := by
  rw [search_append, search_append o input before, search_append o input (before ++ es'),
    search_append o input before, h]

/-- Entries with one handler among them are searched for any that accepts. -/
theorem search_of_forall_handler {h : Handler τ ρ} {es : List (Entry τ ρ)}
    (hes : ∀ e ∈ es, e.handler = h) :
    search o input es = (do
      if ← (Traced.any (asks o input) es).unnumbered then
        Traced.emit (.report (.clauseMatched 0))
        return some (← (h input).unnumbered)
      else return none) := by
  rw [Traced.unnumbered_any]
  induction es with
  | nil => rfl
  | cons e es ih =>
    obtain ⟨he, hrest⟩ := List.forall_mem_cons.1 hes
    rw [search, Traced.any, bind_assoc]
    refine bind_congr fun accepted => ?_
    cases accepted with
    -- whichever entry accepts, its handler is `h`
    | true => simp only [if_true, pure_bind, he]
    | false =>
      simp only [Bool.false_eq_true, if_false]
      exact ih hrest

end Entry

/-! ### Runs -/

namespace Step

/-- The program closed with a terminal and run on an input, as a matcher built ahead. -/
def runAhead (o : MatchOptions) (steps : List (Step τ ρ)) (t : Terminal τ ρ) (input : Value) :
    Traced (Event τ) (Outcome ρ) := do
  let m ← (MatcherBuilder.ofSteps o steps).finish t
  m.run input

/-- The program run on an input and closed with a terminal, as a matcher that has its input. -/
def runBound (o : MatchOptions) (steps : List (Step τ ρ)) (t : Terminal τ ρ) (input : Value) :
    Traced (Event τ) (Outcome ρ) := do
  let b ← BoundMatcher.ofSteps input o steps
  b.finish t

/-- The run is the search through the compiled entries and what the terminal makes of it. -/
theorem runBound_eq (o : MatchOptions) (steps : List (Step τ ρ)) (t : Terminal τ ρ)
    (input : Value) :
    runBound o steps t input
      = Clause.firstMatch input 0 ((Entry.ofSteps o steps).map (Entry.clause o))
        >>= t.finish input := by
  rw [runBound, BoundMatcher.ofSteps_eq, bind_assoc]
  -- closing sees the settled result and nothing else of the matcher
  refine bind_congr fun result? => ?_
  rw [pure_bind, BoundMatcher.finish_eq]

/-- Without numbers, the run is the search without numbers. -/
theorem unnumbered_runBound (o : MatchOptions) (steps : List (Step τ ρ)) (t : Terminal τ ρ)
    (input : Value) :
    (runBound o steps t input).unnumbered
      = Entry.search o input (Entry.ofSteps o steps)
        >>= fun result? => (t.finish input result?).unnumbered := by
  rw [runBound_eq, Traced.unnumbered_bind, Entry.unnumbered_firstMatch]

/-- A matcher built ahead reports the terminal first. Then it does what a matcher does that has its
input. -/
theorem runAhead_eq (o : MatchOptions) (steps : List (Step τ ρ)) (t : Terminal τ ρ)
    (input : Value) :
    runAhead o steps t input = (do
      Traced.emit (.report (.finalized (Entry.ofSteps o steps).length t.name))
      runBound o steps t input) := by
  have hcount : (MatcherBuilder.ofSteps o steps).clauses.length
      = (Entry.ofSteps o steps).length := by
    rw [MatcherBuilder.ofSteps_eq, List.length_map]
  -- closing emits the report and does nothing more before the run
  have hfinish : (MatcherBuilder.ofSteps o steps).finish t = (do
      Traced.emit (.report (.finalized (Entry.ofSteps o steps).length t.name))
      return ((MatcherBuilder.ofSteps o steps).finish t).value) := by
    rw [← hcount]
    rfl
  rw [runAhead, hfinish, bind_assoc, runBound, BoundMatcher.finish_ofSteps]
  exact bind_congr fun _ => pure_bind _ _

/-- Without numbers, the run of a matcher built ahead differs by the report of the terminal
alone. -/
theorem unnumbered_runAhead (o : MatchOptions) (steps : List (Step τ ρ)) (t : Terminal τ ρ)
    (input : Value) :
    (runAhead o steps t input).unnumbered = (do
      Traced.emit (.report (.finalized 0 t.name))
      (runBound o steps t input).unnumbered) := by
  rw [runAhead_eq, Traced.unnumbered_bind, Traced.unnumbered_emit]
  rfl

end Step

/-! ### The calls of a run -/

/-- A call that a run makes: a guard that is asked about a value, or a handler that is applied. -/
inductive Call (τ ρ : Type) where
  | guard (g : Predicate (Event τ) Value) (v : Value)
  | handler (h : Handler τ ρ) (v : Value)

/-- The guard that answers as `g` does and emits its own call instead of what `g` emits. -/
def Predicate.recorded (g : Predicate (Event τ) Value) : Predicate (Event (Call τ ρ)) Value :=
  ⟨fun v => ⟨(g.test v).value, [.mark (.guard g v)]⟩⟩

/-- The handler that gives the result of `h` and emits its own call instead of what `h` emits. -/
def Handler.recorded (h : Handler τ ρ) : Handler (Call τ ρ) ρ :=
  fun v => ⟨(h v).value, [.mark (.handler h v)]⟩

/-- The entry with its guards and its handler exchanged for recorded ones. -/
def Entry.recorded (e : Entry τ ρ) : Entry (Call τ ρ) ρ :=
  ⟨e.pattern.mapGuards Predicate.recorded, e.handler.recorded⟩

/-- The terminal with its fallback, if it has one, exchanged for a recorded one. -/
def Terminal.recorded : Terminal τ ρ → Terminal (Call τ ρ) ρ
  | .exhaustive => .exhaustive
  | .orElseAbsurd => .orElseAbsurd
  | .orElse fallback => .orElse fallback.recorded
  | .optional => .optional
  | .either => .either

namespace Step

mutual

/-- The step with its guards and handlers exchanged for recorded ones. -/
def recorded : Step τ ρ → Step (Call τ ρ) ρ
  | .when p h => .when (p.mapGuards .recorded) h.recorded
  | .whenOr ps h => .whenOr (Pattern.mapGuardsEach .recorded ps) h.recorded
  | .whenAnd ps h => .whenAnd (Pattern.mapGuardsEach .recorded ps) h.recorded
  | .whenNot p h => .whenNot (p.mapGuards .recorded) h.recorded
  | .discriminator field ls h => .discriminator field ls h.recorded
  -- the beginning of a tag is tested by a guard, which is not an argument of the step
  | .discriminatorStartsWith field start h =>
    .when ((Pattern.taggedWithStart field start).mapGuards .recorded) h.recorded
  | .discriminators field lines =>
    .discriminators field (lines.map fun line => (line.1, line.2.recorded))
  | .tag l h => .tag l h.recorded
  | .tags lines => .tags (lines.map fun line => (line.1, line.2.recorded))
  | .withReturnType => .withReturnType
  | .pipe steps => .pipe (recordedAll steps)

/-- The same for a list of steps. -/
def recordedAll : List (Step τ ρ) → List (Step (Call τ ρ) ρ)
  | [] => []
  | s :: steps => s.recorded :: recordedAll steps

end

/-- A list of steps is recorded entry by entry if each of the steps is. -/
private theorem flatMap_entries_recordedAll {tagField : String} {steps : List (Step τ ρ)}
    (h : ∀ s ∈ steps, s.recorded.entries tagField = (s.entries tagField).map Entry.recorded) :
    (recordedAll steps).flatMap (entries tagField)
      = (steps.flatMap (entries tagField)).map Entry.recorded := by
  induction steps with
  | nil => rfl
  | cons s steps ih =>
    obtain ⟨hs, hsteps⟩ := List.forall_mem_cons.1 h
    rw [recordedAll, List.flatMap_cons, List.flatMap_cons, List.map_append, hs, ih hsteps]

/-- A recorded step registers the recorded entries of the step. -/
theorem entries_recorded (tagField : String) (s : Step τ ρ) :
    s.recorded.entries tagField = (s.entries tagField).map Entry.recorded := by
  induction s with
  -- a mapping is recorded line by line, a pipe step by step
  | discriminators field lines => rw [recorded, entries, entries, List.map_map, List.map_map]; rfl
  | tags lines => rw [recorded, entries, entries, List.map_map, List.map_map]; rfl
  | pipe steps ih =>
    rw [recorded, entries, entries, entriesAll_eq_flatMap, entriesAll_eq_flatMap,
      flatMap_entries_recordedAll ih]
  | _ => rfl

/-- A recorded program registers the recorded entries of the program. -/
theorem ofSteps_recordedAll (o : MatchOptions) (steps : List (Step τ ρ)) :
    Entry.ofSteps o (recordedAll steps) = (Entry.ofSteps o steps).map Entry.recorded :=
  flatMap_entries_recordedAll fun s _ => entries_recorded o.tagField s

end Step

/-! ### Calls account for all marks

Spelling each recorded call out as the events of that call gives back the run. -/

/-- The events that an event of a recorded run stands for. -/
def Call.spell : Event (Call τ ρ) → List (Event τ)
  | .mark (.guard g v) => (g.test v).events
  | .mark (.handler h v) => (h v).events
  | .report r => [.report r]

/-- The call of a handler stands for all events of the handler. -/
theorem Handler.expand_recorded (h : Handler τ ρ) (v : Value) :
    (h.recorded v).expand Call.spell = h v :=
  Traced.ext rfl (List.append_nil _)

/-- The calls of the guards of an entry stand for all events of its test. -/
theorem Entry.expand_asks_recorded (o : MatchOptions) (input : Value) (e : Entry τ ρ) :
    (e.recorded.asks o input).expand Call.spell = e.asks o input := by
  refine Pattern.expand_meaning_mapGuards (fun g v => ?_) o.missingFields e.pattern input
  exact Traced.ext rfl (List.append_nil _)

/-- So do the calls of a search through entries, numbers included. -/
theorem Entry.expand_firstMatch_recorded (o : MatchOptions) (input : Value) (index : Nat)
    (es : List (Entry τ ρ)) :
    (Clause.firstMatch input index ((es.map recorded).map (clause o))).expand Call.spell
      = Clause.firstMatch input index (es.map (clause o)) := by
  induction es generalizing index with
  | nil => rfl
  | cons e es ih =>
    rw [List.map_cons, List.map_cons, List.map_cons, Clause.firstMatch, Clause.firstMatch,
      Traced.expand_bind, accepts_clause, accepts_clause, expand_asks_recorded]
    -- the answers are those of the entry itself, so both searches end at the same place
    refine bind_congr fun accepted => ?_
    cases accepted with
    | true =>
      have happly : ((e.recorded.clause o).apply input).expand Call.spell
          = (e.clause o).apply input := e.handler.expand_recorded input
      simp only [if_true, Traced.expand_bind, happly]
      rfl
    | false =>
      simp only [Bool.false_eq_true, if_false]
      exact ih (index + 1)

/-- So do the calls of a terminal, of which there is one at most. -/
theorem Terminal.expand_finish_recorded (t : Terminal τ ρ) (input : Value) (result? : Option ρ) :
    (t.recorded.finish input result?).expand Call.spell = t.finish input result? := by
  cases t with
  | orElse fallback =>
    cases result? with
    | some r => rfl
    -- only here is something called: the fallback, on the input
    | none =>
      rw [recorded, finish, finish, Traced.expand_bind, Handler.expand_recorded]
      rfl
  | _ => cases result? <;> rfl

/-- Numbers may be taken out of a recorded run first, if they are taken out of the run that it
stands for anyway. -/
theorem Traced.unnumbered_expand_unnumbered {α : Type} (t : Traced (Event (Call τ ρ)) α) :
    (t.unnumbered.expand Call.spell).unnumbered = (t.expand Call.spell).unnumbered := by
  have hspell : ∀ e : Event (Call τ ρ), (Call.spell e.unnumbered).flatMap (fun e => [e.unnumbered])
      = (Call.spell e).flatMap fun e => [e.unnumbered] := by
    intro e
    cases e with
    | mark m => rfl
    | report r => cases r <;> rfl
  refine Traced.ext rfl ?_
  rw [unnumbered, unnumbered, unnumbered, expand, expand, expand, expand, expand,
    List.flatMap_assoc, List.flatMap_assoc, List.flatMap_assoc]
  simp only [List.flatMap_singleton, hspell]

namespace Step

/-- **A run is the calls that it makes, spelled out.** -/
theorem expand_runBound_recorded (o : MatchOptions) (steps : List (Step τ ρ)) (t : Terminal τ ρ)
    (input : Value) :
    (runBound o (recordedAll steps) t.recorded input).expand Call.spell
      = runBound o steps t input := by
  rw [runBound_eq, runBound_eq, Traced.expand_bind, ofSteps_recordedAll,
    Entry.expand_firstMatch_recorded]
  exact bind_congr fun result? => t.expand_finish_recorded input result?

/-- The guards and handlers that a matcher built ahead by the program calls, in order. -/
def callsAhead (o : MatchOptions) (steps : List (Step τ ρ)) (t : Terminal τ ρ) (input : Value) :
    List (Call τ ρ) :=
  (runAhead o (recordedAll steps) t.recorded input).events.filterMap Event.mark?

/-- The guards and handlers that the program calls on a matcher that has its input, in order. -/
def callsBound (o : MatchOptions) (steps : List (Step τ ρ)) (t : Terminal τ ρ) (input : Value) :
    List (Call τ ρ) :=
  (runBound o (recordedAll steps) t.recorded input).events.filterMap Event.mark?

/-- Built ahead or with an input at hand, a program makes the same calls. -/
theorem callsAhead_eq_callsBound (o : MatchOptions) (steps : List (Step τ ρ)) (t : Terminal τ ρ)
    (input : Value) : callsAhead o steps t input = callsBound o steps t input := by
  rw [callsAhead, callsBound, runAhead_eq, Traced.events_bind]
  rfl

/-! ### Programs that run alike -/

/-- The programs end with the same outcomes, emit the same events but for the numbers of clauses in
reports, and call the same guards and handlers on the same values and in the same order. -/
structure RunsAlike (o : MatchOptions) (program program' : List (Step τ ρ)) : Prop where
  ahead (t : Terminal τ ρ) (input : Value) :
    (runAhead o program t input).unnumbered = (runAhead o program' t input).unnumbered
  bound (t : Terminal τ ρ) (input : Value) :
    (runBound o program t input).unnumbered = (runBound o program' t input).unnumbered
  callsAhead (t : Terminal τ ρ) (input : Value) :
    callsAhead o program t input = callsAhead o program' t input
  callsBound (t : Terminal τ ρ) (input : Value) :
    callsBound o program t input = callsBound o program' t input

/-- The same on one input. -/
structure RunsAlikeOn (o : MatchOptions) (input : Value) (program program' : List (Step τ ρ)) :
    Prop where
  ahead (t : Terminal τ ρ) :
    (runAhead o program t input).unnumbered = (runAhead o program' t input).unnumbered
  bound (t : Terminal τ ρ) :
    (runBound o program t input).unnumbered = (runBound o program' t input).unnumbered
  callsAhead (t : Terminal τ ρ) : callsAhead o program t input = callsAhead o program' t input
  callsBound (t : Terminal τ ρ) : callsBound o program t input = callsBound o program' t input

variable {o : MatchOptions} {program program' : List (Step τ ρ)}

/-- **Programs run alike if their recorded entries are searched with the same effects.** The calls
are then the same, and the runs are these calls, spelled out. -/
theorem runsAlikeOn_of_search {input : Value}
    (h : Entry.search o input ((Entry.ofSteps o program).map Entry.recorded)
      = Entry.search o input ((Entry.ofSteps o program').map Entry.recorded)) :
    RunsAlikeOn o input program program' := by
  -- the recorded programs run alike
  have hrecorded : ∀ t : Terminal (Call τ ρ) ρ,
      (runBound o (recordedAll program) t input).unnumbered
        = (runBound o (recordedAll program') t input).unnumbered := by
    intro t
    rw [unnumbered_runBound, unnumbered_runBound, ofSteps_recordedAll, ofSteps_recordedAll, h]
  -- spelling the calls out gives the runs of the programs themselves
  have hbound : ∀ t : Terminal τ ρ,
      (runBound o program t input).unnumbered = (runBound o program' t input).unnumbered := by
    intro t
    rw [← expand_runBound_recorded, ← Traced.unnumbered_expand_unnumbered, hrecorded,
      Traced.unnumbered_expand_unnumbered, expand_runBound_recorded]
  have hcalls : ∀ t : Terminal τ ρ,
      callsBound o program t input = callsBound o program' t input := by
    intro t
    rw [callsBound, callsBound, ← Traced.filterMap_mark?_unnumbered, hrecorded,
      Traced.filterMap_mark?_unnumbered]
  refine ⟨fun t => ?_, hbound, fun t => ?_, hcalls⟩
  · rw [unnumbered_runAhead, unnumbered_runAhead, hbound]
  · rw [callsAhead_eq_callsBound, callsAhead_eq_callsBound, hcalls]

/-- The same on every input. -/
theorem runsAlike_of_search
    (h : ∀ input, Entry.search o input ((Entry.ofSteps o program).map Entry.recorded)
      = Entry.search o input ((Entry.ofSteps o program').map Entry.recorded)) :
    RunsAlike o program program' where
  ahead t input := (runsAlikeOn_of_search (h input)).ahead t
  bound t input := (runsAlikeOn_of_search (h input)).bound t
  callsAhead t input := (runsAlikeOn_of_search (h input)).callsAhead t
  callsBound t input := (runsAlikeOn_of_search (h input)).callsBound t

end Step

end Casewise
