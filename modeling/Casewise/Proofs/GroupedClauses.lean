import Casewise.Proofs.ProgramContexts
import Casewise.Proofs.Satisfaction

/-!
# Grouped clauses

A clause for any of several patterns, or for any of several tags, stands for several clauses with
one handler. A program in which these are written out one by one runs as before, apart from the
numbers of clauses.

* `Pattern.SplitsInto` — a pattern and the patterns that it groups. Asking for it is asking for each
  of them in turn, up to the first that matches (`Pattern.SplitsInto.meaning_eq`), and this holds
  with other guards too (`Pattern.SplitsInto.mapGuards`).
* `Step.ExpandsTo`, `Step.ExpandedIn` — a step written out, and a program with one of its steps
  written out, in any place and in pipes of any depth.
* `Step.ExpandedIn.exists_entries` — in the entries of the program, the entry of the group gives way
  to one entry for each of its members. What stands before and after it is the same.
* `Step.grouped_clauses_run_as_expansion` — the two programs run alike.
-/

namespace Casewise

variable {ε δ : Type}

/-- A property passes one of several tests if it passes them one by one. -/
theorem MissingFields.holdsAt_any {α : Type} (missing : MissingFields) (v : Value)
    (key : PropertyKey) (test : α → Value → Bool) (as : List α) :
    missing.holdsAt v key (fun w => as.any fun a => test a w)
      = as.any fun a => missing.holdsAt v key (test a) := by
  unfold holdsAt
  cases v.property? key with
  | some w => rfl
  | none =>
    cases missing with
    | reject => exact (List.any_eq_false.2 fun _ _ => Bool.false_ne_true).symm
    | undefined => rfl

/-! ### Patterns that group others -/

namespace Pattern

/-- Tags are tested in silence, one after the other. -/
theorem meaning_tagged (missing : MissingFields) (field : String) (tags : List Literal)
    (v : Value) :
    (tagged field tags : Pattern ε).meaning missing v
      = pure (v.isObjectLike &&
          tags.any fun l => missing.holdsAt v (.string field) l.strictEquals) := by
  have hsets : ∀ ls ∈ [tags], ∀ w, (oneOf ls : Pattern ε).meaning missing w
      = pure (ls.any fun l => l.strictEquals w) := fun _ _ _ => rfl
  -- a template for one property, with a set of literals there
  have htemplate : (fields ([tags].map fun ls => (.string field, oneOf ls)) : Pattern ε).meaning
      missing v = _ := meaning_fields_of_pure hsets v
  rw [List.map_singleton, List.all_cons, List.all_nil, Bool.and_true,
    missing.holdsAt_any] at htemplate
  exact htemplate

/-- A pattern that groups patterns, and the patterns that it groups. -/
inductive SplitsInto : Pattern ε → List (Pattern ε) → Prop
  | anyOf (ps : List (Pattern ε)) : SplitsInto (.anyOf ps) ps
  | tagged (field : String) (tags : List Literal) :
    SplitsInto (.tagged field tags) (tags.map fun l => .tagged field [l])

namespace SplitsInto

variable {p : Pattern ε} {qs : List (Pattern ε)}

/-- A group asks its members in turn, up to the first that matches. -/
theorem meaning_eq (h : p.SplitsInto qs) (missing : MissingFields) (v : Value) :
    p.meaning missing v = Traced.any (fun q => q.meaning missing v) qs := by
  cases h with
  | anyOf => rw [meaning, meaningAny_eq_any]
  | tagged field tags =>
    -- a group of one tag is the test of that tag
    have hsingle : ∀ l ∈ tags, (Pattern.tagged field [l] : Pattern ε).meaning missing v
        = pure (v.isObjectLike && missing.holdsAt v (.string field) l.strictEquals) := by
      intro l _
      rw [meaning_tagged, List.any_cons, List.any_nil, Bool.or_false]
    rw [meaning_tagged, Traced.any_map, Traced.any_of_pure hsingle]
    cases v.isObjectLike with
    | true => rfl
    | false =>
      -- a value that is not object-like has none of the tags
      exact congrArg pure (List.any_eq_false.2 fun _ _ => Bool.false_ne_true).symm

/-- With its guards exchanged, a group groups its members with theirs exchanged. -/
theorem mapGuards (h : p.SplitsInto qs) (f : Predicate ε Value → Predicate δ Value) :
    (p.mapGuards f).SplitsInto (qs.map (Pattern.mapGuards f)) := by
  cases h with
  | anyOf =>
    rw [Pattern.mapGuards, mapGuardsEach_eq_map]
    exact .anyOf _
  | tagged field tags =>
    rw [List.map_map]
    exact .tagged field tags

end SplitsInto

end Pattern

variable {τ ρ : Type}

/-- A group with a handler is searched as its members with that handler. -/
theorem Entry.search_of_splitsInto {p : Pattern (Event τ)} {qs : List (Pattern (Event τ))}
    (h : p.SplitsInto qs) (f : Handler τ ρ) (o : MatchOptions) (input : Value) :
    search o input [⟨p, f⟩] = search o input (qs.map fun q => ⟨q, f⟩) := by
  have hgroup : ∀ e ∈ [(⟨p, f⟩ : Entry τ ρ)], e.handler = f :=
    List.forall_mem_singleton.2 rfl
  have hmembers : ∀ e ∈ qs.map fun q => (⟨q, f⟩ : Entry τ ρ), e.handler = f := by
    intro e he
    obtain ⟨q, -, rfl⟩ := List.mem_map.1 he
    rfl
  have hasks : Traced.any (asks o input) [(⟨p, f⟩ : Entry τ ρ)]
      = Traced.any (asks o input) (qs.map fun q => (⟨q, f⟩ : Entry τ ρ)) := by
    rw [Traced.any_singleton, Traced.any_map]
    exact h.meaning_eq o.missingFields input
  rw [search_of_forall_handler o input hgroup, search_of_forall_handler o input hmembers, hasks]

/-! ### Programs written out -/

namespace Step

/-- A step for a group, and the steps that register its members with the same handler. -/
inductive ExpandsTo : Step τ ρ → List (Step τ ρ) → Prop
  | whenOr (ps : List (Pattern (Event τ))) (f : Handler τ ρ) :
    ExpandsTo (.whenOr ps f) (ps.map fun p => .when p f)
  | discriminator (field : String) (tags : List Literal) (f : Handler τ ρ) :
    ExpandsTo (.discriminator field tags f) [.discriminators field (tags.map fun l => (l, f))]

/-- The second program is the first with one step written out. The step stands anywhere among the
others, or inside a pipe among them. -/
inductive ExpandedIn : List (Step τ ρ) → List (Step τ ρ) → Prop
  | here (before after : List (Step τ ρ)) {s : Step τ ρ} {ss : List (Step τ ρ)} :
    s.ExpandsTo ss → ExpandedIn (before ++ [s] ++ after) (before ++ ss ++ after)
  | pipe (before after : List (Step τ ρ)) {inner inner' : List (Step τ ρ)} :
    ExpandedIn inner inner' →
      ExpandedIn (before ++ [.pipe inner] ++ after) (before ++ [.pipe inner'] ++ after)

/-- A step that can be written out registers one group, and the steps it is written out to register
the members. -/
theorem ExpandsTo.exists_entries {s : Step τ ρ} {ss : List (Step τ ρ)} (h : s.ExpandsTo ss)
    (o : MatchOptions) :
    ∃ (p : Pattern (Event τ)) (qs : List (Pattern (Event τ))) (f : Handler τ ρ),
      p.SplitsInto qs ∧ Entry.ofSteps o [s] = [⟨p, f⟩] ∧
        Entry.ofSteps o ss = qs.map fun q => ⟨q, f⟩ := by
  cases h with
  | whenOr ps f =>
    refine ⟨.anyOf ps, ps, f, .anyOf ps, rfl, ?_⟩
    rw [Entry.ofSteps, List.flatMap_map]
    exact List.map_eq_flatMap.symm
  -- each line of a mapping registers a group of one tag
  | discriminator field tags f =>
    refine ⟨.tagged field tags, _, f, .tagged field tags, rfl, ?_⟩
    rw [Entry.ofSteps, List.flatMap_singleton, entries, List.map_map, List.map_map]
    rfl

/-- What is written out fills a gap of the program. -/
theorem ExpandedIn.exists_context {program program' : List (Step τ ρ)}
    (h : ExpandedIn program program') :
    ∃ (c : Context τ ρ) (s : Step τ ρ) (ss : List (Step τ ρ)),
      s.ExpandsTo ss ∧ program = c.fill [s] ∧ program' = c.fill ss := by
  induction h with
  | here before after hs => exact ⟨.gap before after, _, _, hs, rfl, rfl⟩
  -- the pipe is part of what is around the gap
  | pipe before after _ ih =>
    obtain ⟨c, s, ss, hs, rfl, rfl⟩ := ih
    exact ⟨.pipe before c after, s, ss, hs, rfl, rfl⟩

/-- **A group gives way to its members.** Before and after it the entries are the same. -/
theorem ExpandedIn.exists_entries {program program' : List (Step τ ρ)}
    (h : ExpandedIn program program') (o : MatchOptions) :
    ∃ (before after : List (Entry τ ρ)) (p : Pattern (Event τ)) (qs : List (Pattern (Event τ)))
      (f : Handler τ ρ), p.SplitsInto qs ∧
        Entry.ofSteps o program = before ++ [⟨p, f⟩] ++ after ∧
        Entry.ofSteps o program' = before ++ (qs.map fun q => ⟨q, f⟩) ++ after := by
  obtain ⟨c, s, ss, hs, rfl, rfl⟩ := h.exists_context
  obtain ⟨p, qs, f, hsplits, hgroup, hmembers⟩ := hs.exists_entries o
  refine ⟨Entry.ofSteps o c.before, Entry.ofSteps o c.after, p, qs, f, hsplits, ?_, ?_⟩
  · rw [Entry.ofSteps_fill, hgroup]
  · rw [Entry.ofSteps_fill, hmembers]

/-- **Grouped clauses run as their expansion.** In any place of a program, a clause for any of
several patterns may be written out as one clause for each pattern, and a clause for any of several
tags as a mapping with one line for each tag, always with the same handler. Under all options the
programs run alike, built ahead of their inputs or with an input at hand: every run under every
terminal has the same outcome and the same events but for the numbers of clauses, and calls the same
guards and handlers on the same values in the same order. A group may be empty or have one member,
and members may be groups. -/
theorem grouped_clauses_run_as_expansion {program program' : List (Step τ ρ)}
    (h : ExpandedIn program program') (o : MatchOptions) : RunsAlike o program program' := by
  obtain ⟨before, after, p, qs, f, hsplits, hprogram, hprogram'⟩ := h.exists_entries o
  refine runsAlike_of_search fun input => ?_
  -- recorded, the members are still what the group splits into
  have hrecorded := Entry.search_of_splitsInto (hsplits.mapGuards Predicate.recorded)
    f.recorded o input
  rw [List.map_map] at hrecorded
  rw [hprogram, hprogram', List.map_append, List.map_append, List.map_append, List.map_append,
    List.map_map]
  exact Entry.search_exchange o input hrecorded _ _

/-- A group inside a group, in a pipe behind another clause. On a number both matchers call the
handler of the group. -/
theorem grouped_clauses_run_as_expansion_in_pipe :
    let f : Handler Unit Nat := fun _ => return 2
    let program : List (Step Unit Nat) :=
      [.when .null fun _ => return 1, .pipe [.whenOr [.anyOf [.string, .number], .boolean] f]]
    let program' : List (Step Unit Nat) :=
      [.when .null fun _ => return 1, .pipe [.when (.anyOf [.string, .number]) f, .when .boolean f]]
    ExpandedIn program program' ∧
      (runAhead {} program .optional (.bool true)).value = .present 2 ∧
      (runAhead {} program .optional (.bool true)).unnumbered
        = (runAhead {} program' .optional (.bool true)).unnumbered ∧
      callsBound {} program .optional (.bool true)
        = callsBound {} program' .optional (.bool true) := by
  intro f program program'
  have h : ExpandedIn program program' := .pipe [_] [] (.here [] [] (.whenOr _ f))
  have halike := grouped_clauses_run_as_expansion h {}
  exact ⟨h, rfl, halike.ahead .optional (.bool true), halike.callsBound .optional (.bool true)⟩

/-- The numbers are not the same: the clause that fires is the second one once it is written out. -/
example :
    let f : Handler Unit Nat := fun _ => return 2
    (runBound {} [.whenOr [.string, .boolean] f] .optional (.bool true)).events
        = [.report (.clauseMatched 0)] ∧
      (runBound {} [.when .string f, .when .boolean f] .optional (.bool true)).events
        = [.report (.clauseMatched 1)] := ⟨rfl, rfl⟩

end Step

end Casewise
