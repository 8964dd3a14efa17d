import Casewise.Matcher
import Casewise.Matcher.Bound
import Casewise.Proofs.Compilation

/-!
# Steps as lists of entries

A program of steps has many words, and pipes nest to any depth. All a builder ever sees of it is a
list of entries, each a pattern with a handler, that are registered one after the other:

* `Step.entries` — the entries of a step, read off its constructor. A mapping has one entry for each
  of its lines, in order; a pipe has the entries of the steps inside.
* `Step.runAll_eq_registerAll` — a program run on a builder registers the entries of its steps in
  order and does nothing else. It holds of every builder whose options stay as they are
  (`LawfulCases`), because a tag clause reads the name of its field from there.

For the two builders, registering a list of entries has a closed form:

* `MatcherBuilder.registerAll_eq` — one compiled clause for each entry goes behind the others;
* `BoundMatcher.registerAll_of_none`, `BoundMatcher.registerAll_of_some` — the compiled clauses are
  searched for the first that accepts, unless one was found before; then they are only counted.
-/

namespace Casewise

variable {τ ρ : Type}

/-- A clause before it is compiled: what to look for and what to do then. -/
structure Entry (τ ρ : Type) where
  pattern : Pattern (Event τ)
  handler : Handler τ ρ

namespace Entry

/-- The test of an entry: what its pattern means under the options. -/
def asks (o : MatchOptions) (input : Value) (e : Entry τ ρ) : Traced (Event τ) Bool :=
  e.pattern.meaning o.missingFields input

/-- The clause that a builder makes of an entry. -/
def clause (o : MatchOptions) (e : Entry τ ρ) : Clause τ ρ := Clause.of o e.pattern e.handler

/-- A compiled entry is asked what the entry asks. -/
@[simp] theorem accepts_clause (o : MatchOptions) (e : Entry τ ρ) (input : Value) :
    (e.clause o).accepts input = e.asks o input :=
  Pattern.accepts_compile o e.pattern input

/-- The handler is not touched by compilation. -/
@[simp] theorem apply_clause (o : MatchOptions) (e : Entry τ ρ) (input : Value) :
    (e.clause o).apply input = e.handler input := rfl

end Entry

/-! ### The entries of a step -/

namespace Step

mutual

/-- The entries that a step registers, in order, on a builder with this tag field. -/
def entries (tagField : String) : Step τ ρ → List (Entry τ ρ)
  | .when p h => [⟨p, h⟩]
  | .whenOr ps h => [⟨.anyOf ps, h⟩]
  | .whenAnd ps h => [⟨.allOf ps, h⟩]
  | .whenNot p h => [⟨.not p, h⟩]
  | .discriminator field ls h => [⟨.tagged field ls, h⟩]
  | .discriminatorStartsWith field start h => [⟨.taggedWithStart field start, h⟩]
  | .discriminators field lines => lines.map fun line => ⟨.tagged field [line.1], line.2⟩
  | .tag l h => [⟨.tagged tagField [l], h⟩]
  | .tags lines => lines.map fun line => ⟨.tagged tagField [line.1], line.2⟩
  | .withReturnType => []
  | .pipe steps => entriesAll tagField steps

/-- The entries of several steps, one step after the other. -/
def entriesAll (tagField : String) : List (Step τ ρ) → List (Entry τ ρ)
  | [] => []
  | s :: steps => entries tagField s ++ entriesAll tagField steps

end

/-- Entries of steps do not depend on the steps around them, the name of the tag field being
fixed. -/
theorem entriesAll_eq_flatMap (tagField : String) (steps : List (Step τ ρ)) :
    entriesAll tagField steps = steps.flatMap (entries tagField) := by
  induction steps with
  | nil => rfl
  | cons s steps ih => rw [entriesAll, List.flatMap_cons, ih]

end Step

/-- The entries of a program under these options: those of its steps, one step after the other. -/
def Entry.ofSteps (o : MatchOptions) (steps : List (Step τ ρ)) : List (Entry τ ρ) :=
  steps.flatMap (Step.entries o.tagField)

/-! ### Programs on any builder -/

/-- A builder whose options stay what they are while clauses are registered. The law is stated for
whatever comes next, since the builder after a registration is only known inside `m`. -/
class LawfulCases (m : Type → Type) [Monad m] (β : Type) {τ ρ : outParam Type}
    [Cases m β τ ρ] : Prop where
  bind_addClause (b : β) (p : Pattern (Event τ)) (h : Handler τ ρ) {α : Type}
      (k : MatchOptions → β → m α) :
    (do let b' ← Cases.addClause b p h; k (Cases.options m b') b')
      = (do let b' ← Cases.addClause b p h; k (Cases.options m b) b')

section Programs

variable {m : Type → Type} [Monad m] {β : Type} [Cases m β τ ρ]

namespace Cases

/-- The entries registered one after the other. -/
def registerAll (b : β) (es : List (Entry τ ρ)) : m β :=
  es.foldlM (fun b e => addClause b e.pattern e.handler) b

/-- Without entries nothing is registered. -/
@[simp] theorem registerAll_nil (b : β) : registerAll (m := m) b ([] : List (Entry τ ρ)) = pure b :=
  rfl

/-- The first entry is registered first, and the others on the builder that it leaves behind. -/
theorem registerAll_cons (b : β) (e : Entry τ ρ) (es : List (Entry τ ρ)) :
    registerAll (m := m) b (e :: es)
      = addClause b e.pattern e.handler >>= fun b' => registerAll b' es := rfl

/-- A mapping registers one entry for each of its lines, in order. -/
theorem discriminators_eq_registerAll (b : β) (field : String)
    (lines : List (Literal × Handler τ ρ)) :
    discriminators (m := m) b field lines
      = registerAll b (lines.map fun line => ⟨.tagged field [line.1], line.2⟩) := by
  induction lines generalizing b with
  | nil => rfl
  | cons line lines ih =>
    rw [discriminators, List.map_cons, registerAll_cons]
    -- the field is given with the mapping, so the later lines need nothing from the builder
    exact bind_congr fun b' => ih b'

variable [LawfulMonad m]

/-- One entry is one registration. -/
theorem registerAll_singleton (b : β) (p : Pattern (Event τ)) (h : Handler τ ρ) :
    registerAll (m := m) b [⟨p, h⟩] = addClause b p h := by
  simp only [registerAll_cons, registerAll_nil, bind_pure]

/-- Entries in two lists are registered list by list. -/
theorem registerAll_append (b : β) (es fs : List (Entry τ ρ)) :
    registerAll (m := m) b (es ++ fs) = registerAll b es >>= fun b' => registerAll b' fs :=
  List.foldlM_append

/-- What follows a list of registrations may read the options from before it. -/
theorem bind_registerAll [LawfulCases m β] (b : β) (es : List (Entry τ ρ)) {α : Type}
    (k : MatchOptions → β → m α) :
    (registerAll b es >>= fun b' => k (options m b') b')
      = registerAll b es >>= fun b' => k (options m b) b' := by
  induction es generalizing b with
  | nil => rw [registerAll_nil, pure_bind, pure_bind]
  | cons e es ih =>
    rw [registerAll_cons, bind_assoc, bind_assoc]
    -- the options are read back over the later registrations first, then over this one
    calc addClause b e.pattern e.handler
          >>= (fun b' => registerAll b' es >>= fun b'' => k (options m b'') b'')
        = addClause b e.pattern e.handler
          >>= (fun b' => registerAll b' es >>= fun b'' => k (options m b') b'') :=
          bind_congr fun b' => ih b'
      _ = addClause b e.pattern e.handler
          >>= (fun b' => registerAll b' es >>= fun b'' => k (options m b) b'') :=
          LawfulCases.bind_addClause b _ _ fun o b' => registerAll b' es >>= fun b'' => k o b''

end Cases

namespace Step

open Cases

variable [LawfulMonad m] [LawfulCases m β]

/-- If each step of a list registers its entries, the list registers the entries of its steps. -/
private theorem runAll_eq_of_forall {steps : List (Step τ ρ)}
    (h : ∀ s ∈ steps, ∀ b : β, s.run (m := m) b = registerAll b (s.entries (options m b).tagField))
    (b : β) :
    runAll (m := m) steps b = registerAll b (Entry.ofSteps (options m b) steps) := by
  induction steps generalizing b with
  | nil => rfl
  | cons s steps ih =>
    obtain ⟨hs, hsteps⟩ := List.forall_mem_cons.1 h
    rw [runAll, hs b, bind_congr (ih hsteps), Entry.ofSteps, List.flatMap_cons, registerAll_append]
    -- the later steps read their tag field from the builder that the first step leaves behind
    exact bind_registerAll b _ fun o b' => registerAll b' (Entry.ofSteps o steps)

/-- A step registers its entries in order and does nothing else. -/
theorem run_eq_registerAll (s : Step τ ρ) (b : β) :
    s.run (m := m) b = registerAll b (s.entries (options m b).tagField) := by
  -- a single clause, a mapping, nothing, or a pipe: the only case that uses the hypothesis
  induction s generalizing b with
  | discriminators field lines => exact discriminators_eq_registerAll b field lines
  | tags lines => exact discriminators_eq_registerAll b _ lines
  | withReturnType => rfl
  | pipe steps ih => rw [run, entries, entriesAll_eq_flatMap, runAll_eq_of_forall ih, Entry.ofSteps]
  | _ => exact (registerAll_singleton b _ _).symm

/-- **A program is its list of entries.** Run on a builder, a program registers the entries of its
steps in order, however they were spelled and nested, and does nothing else. -/
theorem runAll_eq_registerAll (steps : List (Step τ ρ)) (b : β) :
    runAll (m := m) steps b = registerAll b (Entry.ofSteps (options m b) steps) :=
  runAll_eq_of_forall (fun s _ b => run_eq_registerAll s b) b

omit [LawfulCases m β] in
/-- A program in two parts is run part by part. -/
theorem runAll_append (before after : List (Step τ ρ)) (b : β) :
    runAll (m := m) (before ++ after) b = runAll before b >>= fun b' => runAll after b' := by
  induction before generalizing b with
  | nil => exact (pure_bind b _).symm
  | cons s before ih =>
    rw [List.cons_append, runAll, runAll, bind_assoc]
    exact bind_congr fun b' => ih b'

end Step

end Programs

/-! ### The builder that collects -/

namespace MatcherBuilder

instance : LawfulCases Id (MatcherBuilder τ ρ) where
  bind_addClause _ _ _ _ _ := rfl

/-- The builder that a program makes of an empty one. -/
def ofSteps (o : MatchOptions) (steps : List (Step τ ρ)) : MatcherBuilder τ ρ :=
  Id.run (Step.runAll steps (withOptions o))

/-- The compiled clauses of the entries go behind the clauses that are there. -/
theorem registerAll_eq (b : MatcherBuilder τ ρ) (es : List (Entry τ ρ)) :
    Id.run (Cases.registerAll b es)
      = { b with clauses := b.clauses ++ es.map (Entry.clause b.options) } := by
  induction es generalizing b with
  | nil => rw [List.map_nil, List.append_nil]; rfl
  | cons e es ih =>
    -- one registration, of which the fold is made
    have hadd : Id.run (Cases.addClause b e.pattern e.handler)
        = { b with clauses := b.clauses ++ [e.clause b.options] } := rfl
    rw [Cases.registerAll_cons, Id.run_bind, hadd, ih, List.map_cons, List.append_assoc,
      List.singleton_append]

/-- A program puts the compiled clauses of its entries behind the clauses that are there. -/
theorem runAll_eq (b : MatcherBuilder τ ρ) (steps : List (Step τ ρ)) :
    Id.run (Step.runAll steps b) = { b with
      clauses := b.clauses ++ (Entry.ofSteps b.options steps).map (Entry.clause b.options) } := by
  rw [Step.runAll_eq_registerAll]
  exact registerAll_eq b _

/-- The builder of a program: its entries as compiled clauses. -/
theorem ofSteps_eq (o : MatchOptions) (steps : List (Step τ ρ)) :
    ofSteps o steps = ⟨(Entry.ofSteps o steps).map (Entry.clause o), o⟩ :=
  runAll_eq (withOptions o) steps

end MatcherBuilder

/-! ### The builder that has its input -/

namespace BoundMatcher

/-- A registration leaves the options as they are, whether the clause accepts or not. -/
theorem options_register (b : BoundMatcher τ ρ) (p : Pattern (Event τ)) (h : Handler τ ρ) :
    (b.register p h).value.options = b.options := by
  unfold register
  cases b.result? with
  | some r => rfl
  | none =>
    -- the test decides between two builders that differ in their results only
    rw [Traced.value_bind]
    split <;> rfl

/-- A matcher that is not settled is settled by a clause that accepts its input, with the result of
the handler on that input. -/
theorem value_register_of_none {b : BoundMatcher τ ρ} (hb : b.result? = none)
    (p : Pattern (Event τ)) (h : Handler τ ρ) :
    (b.register p h).value = { b with
      clauses := b.clauses + 1
      result? := if ((p.compile b.options).accepts b.input).value then some (h b.input).value
        else none } := by
  have haccepts : ((Clause.of b.options p h).accepts b.input).value
      = ((p.compile b.options).accepts b.input).value := rfl
  rw [register, hb, Traced.value_bind, haccepts]
  -- the result is set, or it stays missing
  cases ((p.compile b.options).accepts b.input).value with
  | true => rfl
  | false => rfl

/-- A clause that rejects the input of such a matcher is tested and counted, and that is all. -/
theorem register_of_rejects {b : BoundMatcher τ ρ} (hb : b.result? = none)
    {p : Pattern (Event τ)} (hp : ((p.compile b.options).accepts b.input).value = false)
    (h : Handler τ ρ) :
    b.register p h
      = ⟨{ b with clauses := b.clauses + 1 }, ((p.compile b.options).accepts b.input).events⟩ := by
  have haccepts : (Clause.of b.options p h).accepts b.input
      = (p.compile b.options).accepts b.input := rfl
  refine Traced.ext ?_ ?_
  · rw [value_register_of_none hb, hp, if_neg Bool.false_ne_true, ← hb]
  · rw [register, hb, Traced.events_bind, haccepts, hp, if_neg Bool.false_ne_true]
    exact List.append_nil _

instance : LawfulCases (Traced (Event τ)) (BoundMatcher τ ρ) where
  bind_addClause b p h _ k := by
    have hopt : Cases.options (Traced (Event τ)) (b.register p h).value = b.options :=
      options_register b p h
    refine Traced.ext ?_ ?_
    · exact congrArg (fun o => (k o _).value) hopt
    · exact congrArg (fun o => _ ++ (k o _).events) hopt

/-- The matcher that a program makes of an input that no clause has been tried on. -/
def ofSteps (input : Value) (o : MatchOptions) (steps : List (Step τ ρ)) :
    Traced (Event τ) (BoundMatcher τ ρ) :=
  Step.runAll steps (withOptions input o)

/-- A settled matcher counts what is registered and does nothing else: no guard is asked, no handler
called. -/
theorem registerAll_of_some {b : BoundMatcher τ ρ} {r : ρ} (h : b.result? = some r)
    (es : List (Entry τ ρ)) :
    Cases.registerAll (m := Traced (Event τ)) b es
      = pure { b with clauses := b.clauses + es.length } := by
  induction es generalizing b with
  | nil => rfl
  | cons e es ih =>
    -- a result being there, registering looks at nothing but the counter
    have hadd : Cases.addClause (m := Traced (Event τ)) b e.pattern e.handler
        = pure { b with clauses := b.clauses + 1 } := by
      change b.register e.pattern e.handler = _
      rw [register, h]
    rw [Cases.registerAll_cons, hadd, pure_bind, List.length_cons, Nat.add_comm es.length,
      ← Nat.add_assoc]
    exact ih (b := { b with clauses := b.clauses + 1 }) h

/-- A matcher that is not settled searches the registered clauses for the first that accepts, and
numbers them from the clauses registered before. -/
theorem registerAll_of_none {b : BoundMatcher τ ρ} (h : b.result? = none)
    (es : List (Entry τ ρ)) :
    Cases.registerAll (m := Traced (Event τ)) b es = (do
      let result? ← Clause.firstMatch b.input b.clauses (es.map (Entry.clause b.options))
      return { b with result? := result?, clauses := b.clauses + es.length }) := by
  induction es generalizing b with
  -- nothing is left to try, and the result is missing as before
  | nil =>
    rw [List.map_nil, Clause.firstMatch, pure_bind, ← h]
    rfl
  | cons e es ih =>
    have hadd : Cases.addClause (m := Traced (Event τ)) b e.pattern e.handler
        = b.register e.pattern e.handler := rfl
    rw [Cases.registerAll_cons, hadd, register, h, List.map_cons, Clause.firstMatch]
    simp only [bind_assoc]
    refine bind_congr fun accepted => ?_
    cases accepted with
    | true =>
      -- the first clause settles the matcher, and the rest of the list is counted
      simp only [if_true, bind_assoc, pure_bind]
      refine bind_congr fun _ => bind_congr fun r => ?_
      rw [registerAll_of_some rfl, List.length_cons, Nat.add_assoc, Nat.add_comm 1]
    | false =>
      -- the search goes on with the next number, which is the counter after this registration
      simp only [Bool.false_eq_true, if_false, pure_bind]
      rw [List.length_cons, Nat.add_comm es.length, ← Nat.add_assoc]
      exact ih (b := { b with result? := none, clauses := b.clauses + 1 }) rfl

/-- A program on an input is the search through its compiled entries, and then a matcher with the
result and their number. -/
theorem ofSteps_eq (input : Value) (o : MatchOptions) (steps : List (Step τ ρ)) :
    ofSteps input o steps = (do
      let result? ← Clause.firstMatch input 0 ((Entry.ofSteps o steps).map (Entry.clause o))
      return ⟨input, result?, (Entry.ofSteps o steps).length, o⟩) := by
  rw [ofSteps, Step.runAll_eq_registerAll]
  refine (registerAll_of_none rfl _).trans (bind_congr fun result? => ?_)
  rw [withOptions, Nat.zero_add]
  rfl

end BoundMatcher

end Casewise
