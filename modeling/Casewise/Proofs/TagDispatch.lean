import Casewise.Proofs.DeadClauses
import Casewise.Proofs.GroupedClauses
import Casewise.Proofs.Navigation
import Casewise.Proofs.ProgramContexts
import Casewise.Proofs.ValueEquality
import Mathlib.Logic.Equiv.Defs

/-!
# Dispatch on tags

A mapping of tags to handlers is registered line by line, and so its order could matter. It does so
only between tags that some value is strictly equal to at once: of those the first line is called,
and lines with other tags may change places freely.

* `MissingFields.asked?` — the value of a field as a template sees it, and `Literal.isTagOf` —
  whether a tag is strictly equal to it.
* `Entry.search_lines` — a mapping is searched for its first line with such a tag, without an event.
* `Reordered` — the mapping in another order, in which lines that compete for a value stay in
  theirs. The first line for any value remains the same (`Reordered.find?_eq`).
* `Step.runBound_fill_of_isTagOf`, `Step.runsAlikeOn_fill_of_forall_isTagOf` — the run of a program
  whose earlier clauses reject the input: the handler of that line is called, and without one the
  mapping does nothing.
* `exists_mem_isTagOf_of_shadowed` — a line is never the first if its tag is a NaN, or strictly
  equal to the tag of an earlier line, and so it is never called (`Step.handlerCalls_of_shadowed`).
* `Step.tag_dispatch_by_first_equal_tag` — the laws together, in any place of a program.
-/

namespace Casewise

/-! ### The value of a field -/

/-- The value that a template asks about under `key`: the property, if there is one. Where missing
properties are tested as `undefined`, that is asked about instead, provided that the value is
object-like. -/
def MissingFields.asked? (missing : MissingFields) (v : Value) (key : PropertyKey) :
    Option Value :=
  match v.property? key, missing with
  | some w, _ => some w
  | none, .reject => none
  | none, .undefined => if v.isObjectLike then some .undefined else none

/-- A template for one property tests the value that it asks about. -/
theorem MissingFields.any_asked? (missing : MissingFields) (v : Value) (key : PropertyKey)
    (test : Value → Bool) :
    (missing.asked? v key).any test = (v.isObjectLike && missing.holdsAt v key test) := by
  unfold asked? holdsAt
  cases hprop : v.property? key with
  -- what has a property is object-like
  | some w =>
    have hhas : v.hasProperty key = true := by rw [Value.hasProperty, hprop]; rfl
    rw [Value.isObjectLike_of_hasProperty hhas]
    rfl
  | none =>
    cases missing with
    | reject => exact (Bool.and_false _).symm
    | undefined => cases v.isObjectLike <;> rfl

namespace Literal

/-- Whether the input has this tag in `field`: whether the tag is strictly equal to the value of the
field. -/
def isTagOf (missing : MissingFields) (field : String) (input : Value) (tag : Literal) : Bool :=
  (missing.asked? input (.string field)).any tag.strictEquals

variable {missing : MissingFields} {field : String} {input : Value} {tag : Literal}

/-- The tag is strictly equal to the value that is asked about, so there has to be one. -/
theorem isTagOf_iff :
    tag.isTagOf missing field input = true ↔
      ∃ w, missing.asked? input (.string field) = some w ∧ tag.strictEquals w = true :=
  Option.any_eq_true _ _

/-- Whatever is strictly equal to a literal is so to those that the literal is strictly equal to. -/
theorem strictEquals_of_strictEquals {l l' : Literal} {w : Value}
    (hl : l.strictEquals l'.toValue = true) (hw : l'.strictEquals w = true) :
    l.strictEquals w = true := by
  rw [strictEquals_eq] at hw
  rw [← strictEquals_eq_of_equals l hw]
  exact hl

end Literal

variable {τ ρ : Type}

/-- **Shadowed lines.** A NaN is the tag of no input; and if the tag of an earlier line is strictly
equal to that of a line, it is the tag of the same inputs. -/
theorem exists_mem_isTagOf_of_shadowed {missing : MissingFields} {field : String} {input : Value}
    {front : List (Literal × Handler τ ρ)} {line : Literal × Handler τ ρ}
    (h : (∃ x, line.1 = .number x ∧ x.isNaN = true) ∨
      ∃ l ∈ front, l.1.strictEquals line.1.toValue = true)
    (hline : line.1.isTagOf missing field input = true) :
    ∃ l ∈ front, l.1.isTagOf missing field input = true := by
  obtain ⟨w, hw, hequal⟩ := Literal.isTagOf_iff.1 hline
  rcases h with ⟨x, hx, hnan⟩ | ⟨l, hl, hstrict⟩
  -- a NaN is strictly equal to nothing, and so the tag of no input
  · rw [hx] at hequal
    cases w with
    | number y =>
      have hself : x.equals y = true := hequal
      rw [Binary64.equals, hnan] at hself
      cases hself
    | _ => cases hequal
  · have hstrict_w := Literal.strictEquals_of_strictEquals hstrict hequal
    exact ⟨l, hl, Literal.isTagOf_iff.2 ⟨w, hw, hstrict_w⟩⟩

/-! ### The entries of a mapping -/

namespace Entry

/-- The entry of a line of a mapping. -/
def ofLine (field : String) (line : Literal × Handler τ ρ) : Entry τ ρ :=
  ⟨.tagged field [line.1], line.2⟩

variable (o : MatchOptions) (input : Value) (field : String)

/-- A line asks for its tag, in silence. -/
theorem asks_ofLine (line : Literal × Handler τ ρ) :
    (ofLine field line).asks o input = pure (line.1.isTagOf o.missingFields field input) := by
  rw [asks, ofLine, Pattern.meaning_tagged, List.any_cons, List.any_nil, Bool.or_false,
    Literal.isTagOf, MissingFields.any_asked?]

/-- Lines whose tags the input has not reject it. -/
theorem rejects_lines {o : MatchOptions} {input : Value} {field : String}
    {lines : List (Literal × Handler τ ρ)}
    (h : ∀ l ∈ lines, l.1.isTagOf o.missingFields field input = false) :
    ∀ e ∈ lines.map (ofLine field), (e.asks o input).value = false := by
  intro e he
  obtain ⟨l, hl, rfl⟩ := List.mem_map.1 he
  rw [asks_ofLine]
  exact h l hl

/-- The lines of a mapping are tested in silence. -/
theorem testEvents_lines (lines : List (Literal × Handler τ ρ)) :
    testEvents o input (lines.map (ofLine field)) = [] := by
  rw [testEvents, List.flatMap_map, List.flatMap_eq_nil_iff]
  intro line _
  rw [asks_ofLine, Traced.events_pure]

/-- What is left to do once the line for the input is known. -/
def fire : Option (Literal × Handler τ ρ) → Traced (Event τ) (Option ρ)
  | none => return none
  | some line => do
    Traced.emit (.report (.clauseMatched 0))
    return some (← (line.2 input).unnumbered)

/-- **A mapping is searched for its first line with a tag of the input.** -/
theorem search_lines (lines : List (Literal × Handler τ ρ)) :
    search o input (lines.map (ofLine field))
      = fire input (lines.find? fun line => line.1.isTagOf o.missingFields field input) := by
  induction lines with
  | nil => rfl
  | cons line lines ih =>
    rw [List.map_cons, search, asks_ofLine, Traced.unnumbered_pure, pure_bind, List.find?_cons]
    -- the first line ends the search, or it is passed over without an event
    cases line.1.isTagOf o.missingFields field input with
    | true => rfl
    | false =>
      simp only [Bool.false_eq_true, if_false]
      exact ih

/-- The recorded entry of a line is the entry of the line with a recorded handler. -/
theorem recorded_lines (lines : List (Literal × Handler τ ρ)) :
    (lines.map (ofLine field)).map recorded
      = (lines.map fun line => (line.1, line.2.recorded)).map (ofLine field) := by
  rw [List.map_map, List.map_map]
  rfl

/-- Mappings with one first line for the input are searched with the same effects. -/
theorem search_recorded_lines {lines lines' : List (Literal × Handler τ ρ)}
    (h : lines.find? (fun line => line.1.isTagOf o.missingFields field input)
      = lines'.find? fun line => line.1.isTagOf o.missingFields field input) :
    search o input ((lines.map (ofLine field)).map recorded)
      = search o input ((lines'.map (ofLine field)).map recorded) := by
  -- recording a line does not change its tag
  have hrecorded : ∀ ls : List (Literal × Handler τ ρ),
      (ls.map fun line => (line.1, line.2.recorded)).find?
          (fun line => line.1.isTagOf o.missingFields field input)
        = (ls.find? fun line => line.1.isTagOf o.missingFields field input).map
            fun line => (line.1, line.2.recorded) := fun _ => List.find?_map
  rw [recorded_lines, recorded_lines, search_lines, search_lines, hrecorded, hrecorded, h]

end Entry

/-! ### The order of a mapping -/

/-- The second mapping is the first in another order, where lines keep their order if some value is
strictly equal to the tags of both. -/
def Reordered (lines lines' : List (Literal × Handler τ ρ)) : Prop :=
  ∃ place : Fin lines.length ≃ Fin lines'.length,
    (∀ i, lines'.get (place i) = lines.get i) ∧
    ∀ i j, i < j →
      (∃ w, (lines.get i).1.strictEquals w = true ∧ (lines.get j).1.strictEquals w = true) →
      place i < place j

namespace Reordered

variable {lines lines' : List (Literal × Handler τ ρ)}

/-- The first line for a value in the old order is at a place of the new one before which no line is
for that value. -/
private theorem rejects_before {w : Value} {place : Fin lines.length ≃ Fin lines'.length}
    (hget : ∀ i, lines'.get (place i) = lines.get i)
    (horder : ∀ i j, i < j →
      (∃ w, (lines.get i).1.strictEquals w = true ∧ (lines.get j).1.strictEquals w = true) →
      place i < place j)
    {i : Fin lines.length} (hi : (lines.get i).1.strictEquals w = true)
    (hfirst : ∀ j < i, (lines.get j).1.strictEquals w = false) :
    ∀ k < place i, (lines'.get k).1.strictEquals w = false := by
  intro k hk
  -- the line that is now at `k` stood at `j`
  obtain ⟨j, rfl⟩ := place.surjective k
  rw [hget]
  rcases Nat.lt_trichotomy j i with hbefore | hsame | hbehind
  · exact hfirst j hbefore
  · cases Fin.ext hsame
    exact absurd hk (Nat.lt_irrefl _)
  · -- if it were for the value, it would have stayed behind the line at `i`
    rw [Bool.eq_false_iff]
    intro hj
    exact Nat.lt_asymm hk (horder i j hbehind ⟨w, hi, hj⟩)

/-- **The first line for a value stays the first.** -/
theorem find?_eq (h : Reordered lines lines') (w : Value) :
    lines.find? (fun line => line.1.strictEquals w)
      = lines'.find? fun line => line.1.strictEquals w := by
  obtain ⟨place, hget, horder⟩ := h
  symm
  cases hfind : lines.find? fun line => line.1.strictEquals w with
  -- no line is for the value, wherever the lines stand
  | none =>
    rw [List.find?_eq_none]
    intro line hline
    obtain ⟨k, rfl⟩ := List.mem_iff_get.1 hline
    obtain ⟨j, rfl⟩ := place.surjective k
    rw [hget]
    exact List.find?_eq_none.1 hfind _ (List.get_mem _ _)
  | some line =>
    obtain ⟨hline, i, hi, rfl, hfirst⟩ := List.find?_eq_some_iff_getElem.1 hfind
    have hearlier : ∀ j < (⟨i, hi⟩ : Fin lines.length),
        (lines.get j).1.strictEquals w = false := by
      intro j hj
      have hfails := hfirst j hj
      rwa [Bool.not_eq_true'] at hfails
    have hrejects := rejects_before hget horder (i := ⟨i, hi⟩) hline hearlier
    rw [List.find?_eq_some_iff_getElem]
    refine ⟨hline, place ⟨i, hi⟩, (place ⟨i, hi⟩).isLt, hget ⟨i, hi⟩, fun k hk => ?_⟩
    rw [Bool.not_eq_true']
    exact hrejects ⟨k, Nat.lt_trans hk (place ⟨i, hi⟩).isLt⟩ hk

/-- So is the first line for an input. -/
theorem find?_isTagOf_eq (h : Reordered lines lines') (missing : MissingFields) (field : String)
    (input : Value) :
    lines.find? (fun line => line.1.isTagOf missing field input)
      = lines'.find? fun line => line.1.isTagOf missing field input := by
  unfold Literal.isTagOf
  cases missing.asked? input (.string field) with
  | none =>
    -- the template asks about nothing, and no line is for the input
    have hnone : ∀ ls : List (Literal × Handler τ ρ),
        ls.find? (fun line => (none : Option Value).any line.1.strictEquals) = none :=
      fun _ => List.find?_eq_none.2 fun _ _ => Bool.false_ne_true
    rw [hnone, hnone]
  | some w => exact h.find?_eq w

end Reordered

/-! ### Runs of a program with a mapping -/

/-- A line that is for an input only if an earlier line is has no part in who is first. -/
private theorem find?_append_cons_of_shadowed {α : Type} {p : α → Bool} {front : List α} {a : α}
    (h : p a = true → ∃ b ∈ front, p b = true) (back : List α) :
    (front ++ a :: back).find? p = (front ++ back).find? p := by
  rw [List.find?_append, List.find?_append]
  cases hfront : front.find? p with
  -- an earlier one is found, whether the shadowed one is there or not
  | some b => rfl
  | none =>
    have ha : ¬ p a = true := by
      intro ha
      obtain ⟨b, hb, hpb⟩ := h ha
      exact List.find?_eq_none.1 hfront b hb hpb
    rw [List.find?_cons_of_neg ha]

/-- A recorded entry answers as the entry does. -/
theorem Entry.value_asks_recorded (o : MatchOptions) (input : Value) (e : Entry τ ρ) :
    (e.recorded.asks o input).value = (e.asks o input).value :=
  congrArg Traced.value (expand_asks_recorded o input e)

/-- Entries that reject an input still do so when they are recorded. -/
theorem Entry.rejects_map_recorded {o : MatchOptions} {input : Value} {es : List (Entry τ ρ)}
    (h : ∀ e ∈ es, (e.asks o input).value = false) :
    ∀ e ∈ es.map recorded, (e.asks o input).value = false := by
  intro d hd
  obtain ⟨e, he, rfl⟩ := List.mem_map.1 hd
  rw [value_asks_recorded]
  exact h e he

section Lines

variable {o : MatchOptions} {input : Value} {field : String}
  {front back : List (Literal × Handler τ ρ)} {line : Literal × Handler τ ρ}

/-- The entry of a line, and what is before and behind it. -/
theorem Entry.append_lines_append (before after : List (Entry τ ρ)) :
    before ++ (front ++ line :: back).map (ofLine field) ++ after
      = before ++ front.map (ofLine field) ++ ofLine field line ::
          (back.map (ofLine field) ++ after) := by
  rw [List.map_append, List.map_cons]
  simp only [List.append_assoc, List.cons_append]

/-- The run through entries that reject the input, and then through a mapping of which the first
line for the input is known. -/
theorem Entry.run_of_line {before : List (Entry τ ρ)}
    (hbefore : ∀ e ∈ before, (e.asks o input).value = false)
    (hfront : ∀ l ∈ front, l.1.isTagOf o.missingFields field input = false)
    (line : Literal × Handler τ ρ) (hline : line.1.isTagOf o.missingFields field input = true)
    (back : List (Literal × Handler τ ρ)) (after : List (Entry τ ρ)) (t : Terminal τ ρ) :
    Matcher.run
        ⟨(before ++ (front ++ line :: back).map (ofLine field) ++ after).map (clause o), t⟩ input
      = ⟨t.settled (line.2 input).value, testEvents o input before ++
          .report (.clauseMatched (before.length + front.length)) :: (line.2 input).events⟩ := by
  have hrejects : ∀ e ∈ before ++ front.map (ofLine field), (e.asks o input).value = false := by
    rw [List.forall_mem_append]
    exact ⟨hbefore, rejects_lines hfront⟩
  have haccepts : ((ofLine field line).asks o input).value = true := by
    rw [asks_ofLine]
    exact hline
  -- the lines up to this one are tested in silence
  have hevents : testEvents o input (before ++ front.map (ofLine field) ++ [ofLine field line])
      = testEvents o input before := by
    have hlines := testEvents_lines o input field (front ++ [line])
    rw [List.map_append, List.map_singleton] at hlines
    rw [List.append_assoc, testEvents, List.flatMap_append]
    exact (congrArg _ hlines).trans (List.append_nil _)
  rw [append_lines_append, Matcher.run_of_accepts hrejects haccepts, hevents, List.length_append,
    List.length_map]
  rfl

namespace Step

/-- The step is a mapping with these lines, and the tags in them are looked for in `field`. -/
inductive Dispatches (o : MatchOptions) :
    Step τ ρ → String → List (Literal × Handler τ ρ) → Prop
  | discriminators (field : String) (lines : List (Literal × Handler τ ρ)) :
    Dispatches o (.discriminators field lines) field lines
  | tags (lines : List (Literal × Handler τ ρ)) : Dispatches o (.tags lines) o.tagField lines

/-- A mapping registers one entry for each line. -/
theorem Dispatches.ofSteps_eq {s : Step τ ρ} {lines : List (Literal × Handler τ ρ)}
    (h : s.Dispatches o field lines) : Entry.ofSteps o [s] = lines.map (Entry.ofLine field) := by
  rw [Entry.ofSteps, List.flatMap_singleton]
  cases h with
  | discriminators => rfl
  | tags => rfl

/-- A mapping may be exchanged for one that has the same first line for every input. -/
theorem runsAlike_of_find?_eq {s s' : Step τ ρ} {lines lines' : List (Literal × Handler τ ρ)}
    (hs : s.Dispatches o field lines) (hs' : s'.Dispatches o field lines')
    (h : ∀ input, lines.find? (fun line => line.1.isTagOf o.missingFields field input)
      = lines'.find? fun line => line.1.isTagOf o.missingFields field input) (c : Context τ ρ) :
    RunsAlike o (c.fill [s]) (c.fill [s']) := by
  refine runsAlike_fill (fun input => ?_) c
  rw [hs.ofSteps_eq, hs'.ofSteps_eq]
  exact Entry.search_recorded_lines o input field (h input)

/-- The calls of a program are the marks of its recorded entries, run as a matcher. -/
theorem callsBound_eq_run (o : MatchOptions) (program : List (Step τ ρ)) (t : Terminal τ ρ)
    (input : Value) :
    callsBound o program t input
      = (Matcher.run ⟨((Entry.ofSteps o program).map Entry.recorded).map (Entry.clause o),
          t.recorded⟩ input).events.filterMap Event.mark? := by
  rw [callsBound, runBound_eq, ofSteps_recordedAll]
  rfl

/-- A program whose clauses reject the input calls guards only. -/
theorem callsBound_of_rejects {program : List (Step τ ρ)}
    (h : ∀ e ∈ Entry.ofSteps o program, (e.asks o input).value = false) :
    callsBound o program .optional input
      = (Entry.testEvents o input ((Entry.ofSteps o program).map Entry.recorded)).filterMap
          Event.mark? := by
  have hrun := Matcher.run_of_rejects (Entry.rejects_map_recorded h) Terminal.optional.recorded
  rw [callsBound_eq_run, hrun, Terminal.recorded, Terminal.missed, List.append_nil]

variable {s : Step τ ρ} {c : Context τ ρ}

section First

variable (hs : s.Dispatches o field (front ++ line :: back))
  (hbefore : ∀ e ∈ Entry.ofSteps o c.before, (e.asks o input).value = false)
  (hfront : ∀ l ∈ front, l.1.isTagOf o.missingFields field input = false)
  (hline : line.1.isTagOf o.missingFields field input = true)

include hs hbefore hfront hline

/-- **The handler of the first line with a tag of the input is called.** -/
theorem runBound_fill_of_isTagOf (t : Terminal τ ρ) :
    runBound o (c.fill [s]) t input
      = ⟨t.settled (line.2 input).value, Entry.testEvents o input (Entry.ofSteps o c.before) ++
          .report (.clauseMatched ((Entry.ofSteps o c.before).length + front.length)) ::
            (line.2 input).events⟩ := by
  rw [runBound_eq, Entry.ofSteps_fill, hs.ofSteps_eq]
  exact Entry.run_of_line hbefore hfront line hline back _ t

/-- Apart from it, only guards are called, those of the clauses before. -/
theorem callsBound_fill_of_isTagOf (t : Terminal τ ρ) :
    callsBound o (c.fill [s]) t input
      = callsBound o c.before .optional input ++ [.handler line.2 input] := by
  have hrecorded := Entry.rejects_map_recorded hbefore
  have hfront_recorded : ∀ l ∈ front.map fun l => (l.1, l.2.recorded),
      l.1.isTagOf o.missingFields field input = false := by
    intro l' hl'
    obtain ⟨l, hl, rfl⟩ := List.mem_map.1 hl'
    exact hfront l hl
  have hrun := Entry.run_of_line hrecorded hfront_recorded (line.1, line.2.recorded) hline
    (back.map fun l => (l.1, l.2.recorded)) ((Entry.ofSteps o c.after).map Entry.recorded)
    t.recorded
  -- recorded, the program is again one with a mapping in the gap
  have hprogram : (Entry.ofSteps o (c.fill [s])).map Entry.recorded
      = (Entry.ofSteps o c.before).map Entry.recorded ++
          (front.map (fun l => (l.1, l.2.recorded)) ++ (line.1, line.2.recorded) ::
            back.map fun l => (l.1, l.2.recorded)).map (Entry.ofLine field) ++
          (Entry.ofSteps o c.after).map Entry.recorded := by
    rw [Entry.ofSteps_fill, hs.ofSteps_eq, List.map_append, List.map_append,
      Entry.recorded_lines, List.map_append, List.map_cons]
  rw [callsBound_eq_run, hprogram, hrun, callsBound_of_rejects hbefore, List.filterMap_append]
  rfl

end First

/-- **Without such a line the mapping does nothing.** -/
theorem runsAlikeOn_fill_of_forall_isTagOf {lines : List (Literal × Handler τ ρ)}
    (hs : s.Dispatches o field lines)
    (h : ∀ l ∈ lines, l.1.isTagOf o.missingFields field input = false) (c : Context τ ρ) :
    RunsAlikeOn o input (c.fill [s]) (c.fill []) := by
  have hnone : lines.find? (fun line => line.1.isTagOf o.missingFields field input)
      = [].find? fun line => line.1.isTagOf o.missingFields field input :=
    List.find?_eq_none.2 fun l hl => by rw [h l hl]; exact Bool.false_ne_true
  refine runsAlikeOn_fill ?_ c
  rw [hs.ofSteps_eq]
  exact Entry.search_recorded_lines o input field hnone

/-- **Shadowed lines are dead.** In no run of a matcher that is built ahead does a call come from
the clause of such a line. -/
theorem handlerCalls_of_shadowed (hs : s.Dispatches o field (front ++ line :: back))
    (hshadowed : (∃ x, line.1 = .number x ∧ x.isNaN = true) ∨
      ∃ l ∈ front, l.1.strictEquals line.1.toValue = true) (t : Terminal τ ρ) (input : Value) :
    ∀ call ∈ ((MatcherBuilder.ofSteps o (c.fill [s])).finish t).value.handlerCalls input,
      call.clause? ≠ some ((Entry.ofSteps o c.before).length + front.length) := by
  let ahead := (Entry.ofSteps o c.before ++ front.map (Entry.ofLine field)).map (Entry.clause o)
  have hdead : ((Entry.ofLine field line).clause o).DeadBehind ahead := by
    intro v hv
    rw [Entry.accepts_clause, Entry.asks_ofLine, Traced.value_pure] at hv
    -- an earlier line is for the same value, and it stands among the clauses ahead
    obtain ⟨l, hl, htag⟩ := exists_mem_isTagOf_of_shadowed hshadowed hv
    refine ⟨(Entry.ofLine field l).clause o, List.mem_map_of_mem (List.mem_append_right _
      (List.mem_map_of_mem hl)), ?_⟩
    rw [Entry.accepts_clause, Entry.asks_ofLine]
    exact htag
  have hbuilt : ((MatcherBuilder.ofSteps o (c.fill [s])).finish t).value
      = ⟨ahead ++ (Entry.ofLine field line).clause o ::
          (back.map (Entry.ofLine field) ++ Entry.ofSteps o c.after).map (Entry.clause o), t⟩ := by
    rw [MatcherBuilder.ofSteps_eq, Entry.ofSteps_fill, hs.ofSteps_eq, Entry.append_lines_append,
      List.map_append, List.map_cons]
    rfl
  have hlength : (Entry.ofSteps o c.before).length + front.length = ahead.length := by
    rw [List.length_map, List.length_append, List.length_map]
  rw [hbuilt, hlength]
  exact (Matcher.ends_alike_of_deadBehind hdead _ t input).2.2

/-- **Tags are dispatched by the first that is strictly equal.** In any place of a program stands a
mapping that looks for its tags in `field`.

* In another order, in which lines with tags that are strictly equal to a common value keep theirs,
  it makes a program that runs alike on every input, under every terminal and in both kinds of
  matchers.
* On an input that all clauses before it reject, the first line whose tag is strictly equal to the
  value of the field has its handler called, on the input, and the program ends with the result. The
  value of the field is the property, or `undefined` in its place where that is how missing
  properties are tested and the input is object-like. If no tag is strictly equal to it, the program
  runs as without the mapping.
* A line whose tag is a NaN, or is strictly equal to the tag of an earlier line, is never called,
  and without it the program runs alike. -/
theorem tag_dispatch_by_first_equal_tag {lines : List (Literal × Handler τ ρ)}
    (hs : s.Dispatches o field lines) (c : Context τ ρ) :
    (∀ (s' : Step τ ρ) (lines' : List (Literal × Handler τ ρ)), s'.Dispatches o field lines' →
      Reordered lines lines' → RunsAlike o (c.fill [s]) (c.fill [s'])) ∧
    (∀ input, (∀ e ∈ Entry.ofSteps o c.before, (e.asks o input).value = false) →
      (∀ front line back, lines = front ++ line :: back →
        (∀ l ∈ front, l.1.isTagOf o.missingFields field input = false) →
        line.1.isTagOf o.missingFields field input = true → ∀ t : Terminal τ ρ,
          (runBound o (c.fill [s]) t input
            = ⟨t.settled (line.2 input).value,
                Entry.testEvents o input (Entry.ofSteps o c.before) ++
                  .report (.clauseMatched ((Entry.ofSteps o c.before).length + front.length)) ::
                    (line.2 input).events⟩ ∧
          (runAhead o (c.fill [s]) t input).value = t.settled (line.2 input).value) ∧
          callsBound o (c.fill [s]) t input
            = callsBound o c.before .optional input ++ [.handler line.2 input] ∧
          callsAhead o (c.fill [s]) t input
            = callsAhead o c.before .optional input ++ [.handler line.2 input]) ∧
      ((∀ l ∈ lines, l.1.isTagOf o.missingFields field input = false) →
        RunsAlikeOn o input (c.fill [s]) (c.fill []))) ∧
    ∀ front line back, lines = front ++ line :: back →
      ((∃ x, line.1 = .number x ∧ x.isNaN = true) ∨
        ∃ l ∈ front, l.1.strictEquals line.1.toValue = true) →
      (∀ (t : Terminal τ ρ) (input : Value),
        ∀ call ∈ ((MatcherBuilder.ofSteps o (c.fill [s])).finish t).value.handlerCalls input,
          call.clause? ≠ some ((Entry.ofSteps o c.before).length + front.length)) ∧
      ∀ s' : Step τ ρ, s'.Dispatches o field (front ++ back) →
        RunsAlike o (c.fill [s]) (c.fill [s']) := by
  refine ⟨?_, ?_, ?_⟩
  · intro s' lines' hs' horder
    exact runsAlike_of_find?_eq hs hs' (horder.find?_isTagOf_eq o.missingFields field) c
  · intro input hbefore
    refine ⟨?_, fun h => runsAlikeOn_fill_of_forall_isTagOf hs h c⟩
    rintro front line back rfl hfront hline t
    have hbound := runBound_fill_of_isTagOf hs hbefore hfront hline t
    have hcalls := callsBound_fill_of_isTagOf hs hbefore hfront hline t
    refine ⟨⟨hbound, ?_⟩, hcalls, ?_⟩
    · rw [runAhead_eq, Traced.value_bind, hbound]
    · rw [callsAhead_eq_callsBound, callsAhead_eq_callsBound, hcalls]
  -- a shadowed line is never the first, so it can be left out of the search
  · rintro front line back rfl hshadowed
    refine ⟨handlerCalls_of_shadowed hs hshadowed, fun s' hs' => ?_⟩
    refine runsAlike_of_find?_eq hs hs' (fun input => ?_) c
    exact find?_append_cons_of_shadowed (exists_mem_isTagOf_of_shadowed hshadowed) back

/-- A mapping in a pipe behind another clause, and the same with its first two lines exchanged.
Where a missing property is tested as `undefined`, both call the handler of that tag on the empty
object. The last line has a tag that an earlier line has, and is never called. -/
theorem tag_dispatch_by_first_equal_tag_in_pipe :
    let f (n : Nat) : Handler Unit Nat := fun _ => return n
    let lines : List (Literal × Handler Unit Nat) :=
      [(.number ⟨0⟩, f 1), (.undefined, f 2), (.number ⟨0x8000000000000000⟩, f 3)]
    let lines' : List (Literal × Handler Unit Nat) :=
      [(.undefined, f 2), (.number ⟨0⟩, f 1), (.number ⟨0x8000000000000000⟩, f 3)]
    let c : Context Unit Nat := .pipe [.when .null (f 0)] (.gap [] []) [.when .any (f 4)]
    let o : MatchOptions := { missingFields := .undefined }
    Reordered lines lines' ∧
      callsBound o (c.fill [.tags lines]) .optional (.object {}) = [.handler (f 2) (.object {})] ∧
      callsBound o (c.fill [.tags lines']) .optional (.object {}) = [.handler (f 2) (.object {})] ∧
      ∀ input, ∀ call ∈ ((MatcherBuilder.ofSteps o (c.fill [.tags lines])).finish
        .optional).value.handlerCalls input, call.clause? ≠ some 3 := by
  intro f lines lines' c o
  have horder : Reordered lines lines' := by
    let exchange : Fin 3 → Fin 3 := fun i => if i = 0 then 1 else if i = 1 then 0 else 2
    have hinv : ∀ i : Fin 3, exchange (exchange i) = i := by decide
    refine ⟨⟨exchange, exchange, hinv, hinv⟩, ?_, ?_⟩
    · intro i
      have hplaces : ∀ i : Fin 3, i = 0 ∨ i = 1 ∨ i = 2 := by decide
      rcases hplaces i with rfl | rfl | rfl
      · rfl
      · rfl
      · rfl
    · rintro i j hij ⟨w, hi, hj⟩
      -- only the first two lines are exchanged, and they have no value in common
      have hkept : ∀ i j : Fin 3, i < j → (i = 0 ∧ j = 1) ∨ exchange i < exchange j := by decide
      rcases hkept i j hij with ⟨rfl, rfl⟩ | hlt
      · cases w with
        | undefined => cases hi
        | _ => cases hj
      · exact hlt
  obtain ⟨hreorder, hfirst, hdead⟩ :=
    tag_dispatch_by_first_equal_tag (.tags lines : (Step.tags lines).Dispatches o _ _) c
  have hbefore : ∀ e ∈ Entry.ofSteps o c.before, (e.asks o (.object {})).value = false :=
    List.forall_mem_singleton.2 rfl
  have hcalls := ((hfirst (.object {}) hbefore).1 [_] _ [_] rfl
    (List.forall_mem_singleton.2 rfl) rfl .optional).2.1
  have halike := hreorder _ _ (.tags lines') horder
  refine ⟨horder, hcalls, (halike.callsBound .optional _).symm.trans hcalls, ?_⟩
  exact (hdead [_, _] _ [] rfl (.inr ⟨_, List.mem_cons_self, rfl⟩)).1 .optional

end Step

end Lines

end Casewise
