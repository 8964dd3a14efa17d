import Casewise.Pattern.Compiled
import Casewise.Pattern.Meaning
import Casewise.Proofs.NestedInduction

/-!
# Compilation preserves meaning

`Pattern.compile` rewrites a pattern on the way: it cancels double negation, flattens conjunctions
inside conjunctions and disjunctions inside disjunctions, drops connectives around a single operand
and turns a set with one literal into that literal. `Pattern.meaning` does none of this. The two
agree in the answer and in every event on the way to it:

* `Pattern.accepts_compile` — the compiled pattern and the meaning are one `Traced` test;
* `Pattern.compile_mapGuards` — compilation does not look into guards, so guards may be exchanged
  before or after it;
* `Pattern.events_meaning` — the events of a test are those of the guards that it calls;
* `Pattern.compiled_test_eq_meaning` — the three together: the same answer, the same events, and the
  same calls of the same guards on the same values in the same order.

The argument has one lemma for each rewriting step, stated on compiled patterns alone
(`accepts_ofLiterals`, `accepts_negation`, `accepts_conjunction`, `accepts_disjunction`). The
flattening steps rest on the law that a list of tests may be regrouped (`Traced.all_flatMap`): the
operands of an operand stand where the operand stood, and `conjuncts` of any pattern is a list whose
conjunction is that pattern again.
-/

namespace Casewise

variable {ε δ : Type}

/-! ### Recursion over lists, restated

Tests and compilation recur over lists of patterns through functions of their own. Each of these is
a library function in disguise: a `map`, or a test over a list that stops when the answer is
known. -/

/-- The question that a template puts to the property under `key`: the property itself is tested if
there is one, and the treatment of missing properties decides otherwise. -/
def MissingFields.ask (missing : MissingFields) (v : Value) (key : PropertyKey)
    (test : Value → Traced ε Bool) : Traced ε Bool :=
  match v.property? key, missing with
  | some w, _ => test w
  | none, .reject => pure false
  | none, .undefined => test .undefined

namespace Pattern

/-- The meaning of a conjunction asks the operands in turn, up to the first that fails. -/
theorem meaningAll_eq_all (missing : MissingFields) (ps : List (Pattern ε)) (v : Value) :
    meaningAll missing ps v = Traced.all (fun p => p.meaning missing v) ps := by
  induction ps with
  | nil => rfl
  | cons p ps ih => rw [meaningAll, Traced.all, ih]

/-- The meaning of a disjunction asks the operands in turn, up to the first that holds. -/
theorem meaningAny_eq_any (missing : MissingFields) (ps : List (Pattern ε)) (v : Value) :
    meaningAny missing ps v = Traced.any (fun p => p.meaning missing v) ps := by
  induction ps with
  | nil => rfl
  | cons p ps ih => rw [meaningAny, Traced.any, ih]

/-- The meaning of a template over properties asks one question for each key, in the order of the
keys. -/
theorem meaningFields_eq_all (missing : MissingFields) (fs : List (PropertyKey × Pattern ε))
    (v : Value) :
    meaningFields missing fs v =
      Traced.all (fun f => missing.ask v f.1 (f.2.meaning missing)) fs := by
  induction fs with
  | nil => rfl
  | cons f fs ih =>
    simp only [meaningFields, Traced.all, MissingFields.ask, ih]
    -- there, or missing and treated in one of two ways
    cases v.property? f.1 <;> cases missing <;> rfl

/-- The meaning of a template over positions goes through positions and items side by side. -/
theorem meaningEach_eq_all (missing : MissingFields) (ps : List (Pattern ε)) (vs : List Value) :
    meaningEach missing ps vs = Traced.all (fun e => e.1.meaning missing e.2) (ps.zip vs) := by
  induction ps generalizing vs with
  | nil => cases vs <;> rfl
  | cons p ps ih =>
    -- where one of the lists ends, the zipped list does
    cases vs with
    | nil => rfl
    | cons v vs => rw [meaningEach, List.zip_cons_cons, Traced.all, ih]

/-- Operands are compiled one by one. -/
theorem compileEach_eq_map (o : MatchOptions) (ps : List (Pattern ε)) :
    compileEach o ps = ps.map (compile o) := by
  induction ps with
  | nil => rfl
  | cons p ps ih => rw [compileEach, List.map_cons, ih]

/-- Fields are compiled one by one, under their keys. -/
theorem compileFields_eq_map (o : MatchOptions) (fs : List (PropertyKey × Pattern ε)) :
    compileFields o fs = fs.map fun f => (f.1, f.2.compile o) := by
  induction fs with
  | nil => rfl
  | cons f fs ih => rw [compileFields, List.map_cons, ih]

end Pattern

namespace CompiledPattern

/-- A compiled conjunction asks its operands in turn. -/
theorem acceptsAll_eq_all (ps : List (CompiledPattern ε)) (v : Value) :
    acceptsAll ps v = Traced.all (fun p => p.accepts v) ps := by
  induction ps with
  | nil => rfl
  | cons p ps ih => rw [acceptsAll, Traced.all, ih]

/-- A compiled disjunction asks its operands in turn. -/
theorem acceptsAny_eq_any (ps : List (CompiledPattern ε)) (v : Value) :
    acceptsAny ps v = Traced.any (fun p => p.accepts v) ps := by
  induction ps with
  | nil => rfl
  | cons p ps ih => rw [acceptsAny, Traced.any, ih]

/-- A compiled template over properties asks the same questions as its meaning, in the same
order. -/
theorem acceptsFields_eq_all (missing : MissingFields)
    (fs : List (PropertyKey × CompiledPattern ε)) (v : Value) :
    acceptsFields missing fs v = Traced.all (fun f => missing.ask v f.1 f.2.accepts) fs := by
  induction fs with
  | nil => rfl
  | cons f fs ih =>
    simp only [acceptsFields, Traced.all, MissingFields.ask, ih]
    -- there, or missing and treated in one of two ways
    cases v.property? f.1 <;> cases missing <;> rfl

/-- A compiled template over positions goes through positions and items side by side. -/
theorem acceptsEach_eq_all (ps : List (CompiledPattern ε)) (vs : List Value) :
    acceptsEach ps vs = Traced.all (fun e => e.1.accepts e.2) (ps.zip vs) := by
  induction ps generalizing vs with
  | nil => cases vs <;> rfl
  | cons p ps ih =>
    cases vs with
    | nil => rfl
    | cons v vs => rw [acceptsEach, List.zip_cons_cons, Traced.all, ih]

/-! ### One lemma for each rewriting step -/

/-- A set of one literal is that literal. -/
theorem accepts_ofLiterals (ls : List Literal) (v : Value) :
    (ofLiterals ls : CompiledPattern ε).accepts v = pure (ls.any fun l => l.strictEquals v) := by
  match ls with
  | [] => rfl
  -- the one length at which a set is not kept as a set
  | [l] =>
    change pure (l.strictEquals v) = _
    rw [List.any_cons, List.any_nil, Bool.or_false]
  | l :: l' :: ls => rfl

/-- Cancelling a negation negates: where `negation` takes one off, two had been asked for. -/
theorem accepts_negation (p : CompiledPattern ε) (v : Value) :
    p.negation.accepts v = (do return !(← p.accepts v)) := by
  cases p with
  | not p =>
    -- the operand is itself a negation: asking it and negating twice is asking what it negates
    simp [negation, accepts]
  | _ => rfl

/-- The operands of a conjunction, asked in turn, are the conjunction. -/
theorem all_conjuncts (p : CompiledPattern ε) (v : Value) :
    Traced.all (fun q => q.accepts v) p.conjuncts = p.accepts v := by
  -- only a conjunction is taken apart; any other pattern is asked as it stands
  cases p with
  | allOf ps => exact (acceptsAll_eq_all ps v).symm
  | _ => exact Traced.all_singleton _ _

/-- The operands of a disjunction, asked in turn, are the disjunction. -/
theorem any_disjuncts (p : CompiledPattern ε) (v : Value) :
    Traced.any (fun q => q.accepts v) p.disjuncts = p.accepts v := by
  cases p with
  | anyOf ps => exact (acceptsAny_eq_any ps v).symm
  | _ => exact Traced.any_singleton _ _

/-- **Flattening keeps the order of evaluation.** The flattened conjunction asks what the operands
ask, one after the other, and stops where they would have stopped. -/
theorem accepts_conjunction (ps : List (CompiledPattern ε)) (v : Value) :
    (conjunction ps).accepts v = Traced.all (fun p => p.accepts v) ps := by
  have hflat : Traced.all (fun q => q.accepts v) (ps.flatMap conjuncts)
      = Traced.all (fun p => p.accepts v) ps := by
    rw [Traced.all_flatMap]
    exact Traced.all_congr fun p _ => all_conjuncts p v
  rw [conjunction, ← hflat]
  split
  · -- a single operand stands without a connective
    next q hq => rw [hq, Traced.all_singleton]
  · exact acceptsAll_eq_all _ v

/-- The same for disjunctions. -/
theorem accepts_disjunction (ps : List (CompiledPattern ε)) (v : Value) :
    (disjunction ps).accepts v = Traced.any (fun p => p.accepts v) ps := by
  have hflat : Traced.any (fun q => q.accepts v) (ps.flatMap disjuncts)
      = Traced.any (fun p => p.accepts v) ps := by
    rw [Traced.any_flatMap]
    exact Traced.any_congr fun p _ => any_disjuncts p v
  rw [disjunction, ← hflat]
  split
  · next q hq => rw [hq, Traced.any_singleton]
  · exact acceptsAny_eq_any _ v

end CompiledPattern

/-! ### The meaning of a compiled pattern -/

/-- **The compiled pattern is its meaning.** Answer and events of the compiled test are those of the
pattern it was compiled from, under the treatment of missing properties in the options. -/
theorem Pattern.accepts_compile (o : MatchOptions) (p : Pattern ε) (v : Value) :
    (p.compile o).accepts v = p.meaning o.missingFields v := by
  -- the induction is for all values, since templates ask about properties and items of theirs
  induction p generalizing v with
  | any => rfl
  | defined => rfl
  | literal l => rfl
  | guard p => rfl
  | oneOf ls => exact CompiledPattern.accepts_ofLiterals ls v
  | not p ih => rw [compile, CompiledPattern.accepts_negation, meaning, ih]
  | allOf ps ih =>
    rw [compile, CompiledPattern.accepts_conjunction, compileEach_eq_map, Traced.all_map, meaning,
      meaningAll_eq_all]
    exact Traced.all_congr fun p hp => ih p hp v
  | anyOf ps ih =>
    rw [compile, CompiledPattern.accepts_disjunction, compileEach_eq_map, Traced.any_map, meaning,
      meaningAny_eq_any]
    exact Traced.any_congr fun p hp => ih p hp v
  | fields fs ih =>
    rw [compile, CompiledPattern.accepts, CompiledPattern.acceptsFields_eq_all,
      compileFields_eq_map, Traced.all_map, meaning, meaningFields_eq_all]
    -- a missing property is tested as `undefined`, so the members have to agree on every value
    have hask : ∀ f ∈ fs, o.missingFields.ask v f.1 (f.2.compile o).accepts
        = o.missingFields.ask v f.1 (f.2.meaning o.missingFields) := fun f hf =>
      congrArg (o.missingFields.ask v f.1) (funext (ih f hf))
    rw [Traced.all_congr hask]
  | elements ps ih =>
    -- the guard on the length reads the same, since compilation keeps the number of positions
    rw [compile, compileEach_eq_map, CompiledPattern.accepts, meaning]
    cases v.items? with
    | none => rfl
    | some items =>
      have heach : ∀ e ∈ ps.zip items, (e.1.compile o).accepts e.2
          = e.1.meaning o.missingFields e.2 := fun e he =>
        ih e.1 (List.of_mem_zip he).1 e.2
      dsimp only
      rw [CompiledPattern.acceptsEach_eq_all, meaningEach_eq_all, List.length_map,
        List.zip_map_left, Traced.all_map, ← Traced.all_congr heach]
      rfl

/-! ### Which guards are called

A guard that emits nothing leaves no trace of its calls. To speak of the calls themselves, every
guard is exchanged for one that announces its call and emits nothing else. -/

namespace Pattern

mutual

/-- The pattern with each guard replaced by what `f` makes of it. -/
def mapGuards (f : Predicate ε Value → Predicate δ Value) : Pattern ε → Pattern δ
  | .any => .any
  | .defined => .defined
  | .literal l => .literal l
  | .oneOf ls => .oneOf ls
  | .guard p => .guard (f p)
  | .not p => .not (mapGuards f p)
  | .allOf ps => .allOf (mapGuardsEach f ps)
  | .anyOf ps => .anyOf (mapGuardsEach f ps)
  | .fields fs => .fields (mapGuardsFields f fs)
  | .elements ps => .elements (mapGuardsEach f ps)

/-- Operands and items with their guards exchanged. -/
def mapGuardsEach (f : Predicate ε Value → Predicate δ Value) :
    List (Pattern ε) → List (Pattern δ)
  | [] => []
  | p :: ps => mapGuards f p :: mapGuardsEach f ps

/-- What a template asks of its fields, with its guards exchanged. -/
def mapGuardsFields (f : Predicate ε Value → Predicate δ Value) :
    List (PropertyKey × Pattern ε) → List (PropertyKey × Pattern δ)
  | [] => []
  | (k, p) :: fs => (k, mapGuards f p) :: mapGuardsFields f fs

end

variable (f : Predicate ε Value → Predicate δ Value)

/-- Guards are exchanged operand by operand. -/
theorem mapGuardsEach_eq_map (ps : List (Pattern ε)) :
    mapGuardsEach f ps = ps.map (mapGuards f) := by
  induction ps with
  | nil => rfl
  | cons p ps ih => rw [mapGuardsEach, List.map_cons, ih]

/-- Guards are exchanged field by field. -/
theorem mapGuardsFields_eq_map (fs : List (PropertyKey × Pattern ε)) :
    mapGuardsFields f fs = fs.map fun e => (e.1, e.2.mapGuards f) := by
  induction fs with
  | nil => rfl
  | cons e fs ih => rw [mapGuardsFields, List.map_cons, ih]

end Pattern

namespace CompiledPattern

mutual

/-- The compiled pattern with each guard replaced by what `f` makes of it. -/
def mapGuards (f : Predicate ε Value → Predicate δ Value) :
    CompiledPattern ε → CompiledPattern δ
  | .any => .any
  | .defined => .defined
  | .literal l => .literal l
  | .oneOf ls => .oneOf ls
  | .guard p => .guard (f p)
  | .not p => .not (mapGuards f p)
  | .allOf ps => .allOf (mapGuardsEach f ps)
  | .anyOf ps => .anyOf (mapGuardsEach f ps)
  | .fields fs missing => .fields (mapGuardsFields f fs) missing
  | .elements ps => .elements (mapGuardsEach f ps)

/-- Compiled operands and items with their guards exchanged. -/
def mapGuardsEach (f : Predicate ε Value → Predicate δ Value) :
    List (CompiledPattern ε) → List (CompiledPattern δ)
  | [] => []
  | p :: ps => mapGuards f p :: mapGuardsEach f ps

/-- What a compiled template asks of its fields, with its guards exchanged. -/
def mapGuardsFields (f : Predicate ε Value → Predicate δ Value) :
    List (PropertyKey × CompiledPattern ε) → List (PropertyKey × CompiledPattern δ)
  | [] => []
  | (k, p) :: fs => (k, mapGuards f p) :: mapGuardsFields f fs

end

variable (f : Predicate ε Value → Predicate δ Value)

/-- Guards are exchanged operand by operand. -/
theorem mapGuardsEach_eq_map (ps : List (CompiledPattern ε)) :
    mapGuardsEach f ps = ps.map (mapGuards f) := by
  induction ps with
  | nil => rfl
  | cons p ps ih => rw [mapGuardsEach, List.map_cons, ih]

/-- Guards are exchanged field by field. -/
theorem mapGuardsFields_eq_map (fs : List (PropertyKey × CompiledPattern ε)) :
    mapGuardsFields f fs = fs.map fun e => (e.1, e.2.mapGuards f) := by
  induction fs with
  | nil => rfl
  | cons e fs ih => rw [mapGuardsFields, List.map_cons, ih]

/-! No rewriting step looks at a guard. -/

/-- In a set of literals there is no guard, whether it becomes a single literal or not. -/
theorem mapGuards_ofLiterals (ls : List Literal) :
    (ofLiterals ls).mapGuards f = ofLiterals ls := by
  match ls with
  | [] => rfl
  | [_] => rfl
  | _ :: _ :: _ => rfl

/-- A negation is taken off or put on as it would be with other guards. -/
theorem mapGuards_negation (p : CompiledPattern ε) :
    p.negation.mapGuards f = (p.mapGuards f).negation := by
  cases p <;> rfl

/-- What a pattern contributes to a conjunction depends on its root, which is not a guard of it. -/
theorem conjuncts_mapGuards (p : CompiledPattern ε) :
    (p.mapGuards f).conjuncts = p.conjuncts.map (mapGuards f) := by
  -- a conjunction shows its operands, with their guards exchanged one by one
  cases p with
  | allOf ps => exact mapGuardsEach_eq_map f ps
  | _ => rfl

/-- What a pattern contributes to a disjunction depends on its root likewise. -/
theorem disjuncts_mapGuards (p : CompiledPattern ε) :
    (p.mapGuards f).disjuncts = p.disjuncts.map (mapGuards f) := by
  cases p with
  | anyOf ps => exact mapGuardsEach_eq_map f ps
  | _ => rfl

/-- Conjunctions are flattened as they would be with other guards. -/
theorem mapGuards_conjunction (ps : List (CompiledPattern ε)) :
    (conjunction ps).mapGuards f = conjunction (ps.map (mapGuards f)) := by
  have hflat : (ps.map (mapGuards f)).flatMap conjuncts
      = (ps.flatMap conjuncts).map (mapGuards f) := by
    rw [List.flatMap_map, List.map_flatMap]
    exact congrArg ps.flatMap (funext (conjuncts_mapGuards f))
  rw [conjunction, conjunction, hflat]
  -- the connective is kept or dropped by the number of operands, which an exchange does not change
  match ps.flatMap conjuncts with
  | [] => rfl
  | [_] => rfl
  | _ :: _ :: _ => exact congrArg CompiledPattern.allOf (mapGuardsEach_eq_map f _)

/-- Disjunctions are flattened as they would be with other guards. -/
theorem mapGuards_disjunction (ps : List (CompiledPattern ε)) :
    (disjunction ps).mapGuards f = disjunction (ps.map (mapGuards f)) := by
  have hflat : (ps.map (mapGuards f)).flatMap disjuncts
      = (ps.flatMap disjuncts).map (mapGuards f) := by
    rw [List.flatMap_map, List.map_flatMap]
    exact congrArg ps.flatMap (funext (disjuncts_mapGuards f))
  rw [disjunction, disjunction, hflat]
  match ps.flatMap disjuncts with
  | [] => rfl
  | [_] => rfl
  | _ :: _ :: _ => exact congrArg CompiledPattern.anyOf (mapGuardsEach_eq_map f _)

end CompiledPattern

/-- **Compilation is blind to guards.** Exchanging the guards of a pattern and compiling it gives
the compiled pattern with its guards exchanged. -/
theorem Pattern.compile_mapGuards (f : Predicate ε Value → Predicate δ Value) (o : MatchOptions)
    (p : Pattern ε) : (p.mapGuards f).compile o = (p.compile o).mapGuards f := by
  induction p with
  | any => rfl
  | defined => rfl
  | literal l => rfl
  | guard p => rfl
  | oneOf ls => exact (CompiledPattern.mapGuards_ofLiterals f ls).symm
  | not p ih => rw [mapGuards, compile, ih, compile, CompiledPattern.mapGuards_negation]
  | allOf ps ih =>
    rw [mapGuards, compile, compile, CompiledPattern.mapGuards_conjunction, mapGuardsEach_eq_map,
      compileEach_eq_map, compileEach_eq_map, List.map_map, List.map_map]
    exact congrArg CompiledPattern.conjunction (List.map_congr_left ih)
  | anyOf ps ih =>
    rw [mapGuards, compile, compile, CompiledPattern.mapGuards_disjunction, mapGuardsEach_eq_map,
      compileEach_eq_map, compileEach_eq_map, List.map_map, List.map_map]
    exact congrArg CompiledPattern.disjunction (List.map_congr_left ih)
  | fields fs ih =>
    rw [mapGuards, compile, compile, CompiledPattern.mapGuards, mapGuardsFields_eq_map,
      CompiledPattern.mapGuardsFields_eq_map, compileFields_eq_map, compileFields_eq_map,
      List.map_map, List.map_map]
    -- keys stay, and so does the treatment of missing properties
    have hfs : ∀ e ∈ fs, (e.1, (e.2.mapGuards f).compile o) = (e.1, (e.2.compile o).mapGuards f) :=
      fun e he => congrArg (Prod.mk e.1) (ih e he)
    exact congrArg (CompiledPattern.fields · o.missingFields) (List.map_congr_left hfs)
  | elements ps ih =>
    rw [mapGuards, compile, compile, CompiledPattern.mapGuards, mapGuardsEach_eq_map,
      CompiledPattern.mapGuardsEach_eq_map, compileEach_eq_map, compileEach_eq_map, List.map_map,
      List.map_map]
    exact congrArg CompiledPattern.elements (List.map_congr_left ih)

/-- A call of a guard: the guard and the value that it is asked about. -/
abbrev GuardCall (ε : Type) := Predicate ε Value × Value

/-- The guard that answers as `p` does and emits its own call instead of what `p` emits. -/
def Predicate.announced (p : Predicate ε Value) : Predicate (GuardCall ε) Value :=
  ⟨fun v => ⟨(p.test v).value, [(p, v)]⟩⟩

/-- The calls of guards that the meaning of a pattern makes of a value, in order. -/
def Pattern.guardCalls (missing : MissingFields) (p : Pattern ε) (v : Value) :
    List (GuardCall ε) :=
  ((p.mapGuards .announced).meaning missing v).events

/-- The calls of guards that a compiled pattern makes of a value, in order. -/
def CompiledPattern.guardCalls (p : CompiledPattern ε) (v : Value) : List (GuardCall ε) :=
  ((p.mapGuards .announced).accepts v).events

/-- The compiled pattern calls the guards that its meaning calls. This is not the equation of
events, since a guard may emit nothing. -/
theorem Pattern.guardCalls_compile (o : MatchOptions) (p : Pattern ε) (v : Value) :
    (p.compile o).guardCalls v = p.guardCalls o.missingFields v := by
  rw [CompiledPattern.guardCalls, ← compile_mapGuards, accepts_compile, guardCalls]

/-! ### Calls account for all events

A test emits what the guards emit that it calls, and nothing else. Spelling each announced call out
as the events of that call gives back the test with its own guards. -/

namespace Traced

variable {α : Type}

/-- The run with every event spelled out as the events that it stands for. -/
def expand (g : δ → List ε) (t : Traced δ α) : Traced ε α := ⟨t.value, t.events.flatMap g⟩

/-- Spelling out goes through a sequence part by part. -/
theorem expand_bind {β : Type} (g : δ → List ε) (t : Traced δ α) (f : α → Traced δ β) :
    (t >>= f).expand g = t.expand g >>= fun a => (f a).expand g :=
  Traced.ext rfl List.flatMap_append

/-- Spelling out does not change which elements are asked: the answers stay. -/
theorem expand_all (g : δ → List ε) (test : α → Traced δ Bool) (as : List α) :
    (all test as).expand g = all (fun a => (test a).expand g) as := by
  induction as with
  | nil => rfl
  | cons a as ih =>
    rw [all, all, expand_bind, ← ih]
    refine bind_congr fun b => ?_
    -- whatever the first answer is, both sides go on or stop alike
    cases b <;> rfl

/-- The same where one success is enough. -/
theorem expand_any (g : δ → List ε) (test : α → Traced δ Bool) (as : List α) :
    (any test as).expand g = any (fun a => (test a).expand g) as := by
  induction as with
  | nil => rfl
  | cons a as ih =>
    rw [any, any, expand_bind, ← ih]
    refine bind_congr fun b => ?_
    cases b <;> rfl

end Traced

/-- Spelling out the events of a question about a property is spelling out those of the test. -/
theorem MissingFields.expand_ask (g : δ → List ε) (missing : MissingFields) (v : Value)
    (key : PropertyKey) (test : Value → Traced δ Bool) :
    (missing.ask v key test).expand g = missing.ask v key fun w => (test w).expand g := by
  unfold ask
  cases v.property? key <;> cases missing <;> rfl

/-- If spelling out undoes an exchange of guards for each guard, it does so for each pattern. -/
theorem Pattern.expand_meaning_mapGuards {f : Predicate ε Value → Predicate δ Value}
    {g : δ → List ε} (hf : ∀ p v, ((f p).test v).expand g = p.test v) (missing : MissingFields)
    (p : Pattern ε) (v : Value) :
    ((p.mapGuards f).meaning missing v).expand g = p.meaning missing v := by
  -- guards are the one case with something to undo; the others pass it on to their members
  induction p generalizing v with
  | any => rfl
  | defined => rfl
  | literal l => rfl
  | oneOf ls => rfl
  | guard p => exact hf p v
  | not p ih => rw [mapGuards, meaning, meaning, Traced.expand_bind, ih]; rfl
  | allOf ps ih =>
    rw [mapGuards, meaning, meaning, meaningAll_eq_all, meaningAll_eq_all, mapGuardsEach_eq_map,
      Traced.all_map, Traced.expand_all]
    exact Traced.all_congr fun p hp => ih p hp v
  | anyOf ps ih =>
    rw [mapGuards, meaning, meaning, meaningAny_eq_any, meaningAny_eq_any, mapGuardsEach_eq_map,
      Traced.any_map, Traced.expand_any]
    exact Traced.any_congr fun p hp => ih p hp v
  | fields fs ih =>
    rw [mapGuards, meaning, meaning, meaningFields_eq_all, meaningFields_eq_all,
      mapGuardsFields_eq_map, Traced.all_map]
    cases v.isObjectLike with
    | false => rfl
    | true =>
      -- the keys are those of before, and under each of them the induction hypothesis applies
      rw [if_pos rfl, if_pos rfl, Traced.expand_all]
      refine Traced.all_congr fun e he => ?_
      rw [MissingFields.expand_ask]
      exact congrArg (missing.ask v e.1) (funext (ih e he))
  | elements ps ih =>
    rw [mapGuards, meaning, meaning, mapGuardsEach_eq_map]
    cases v.items? with
    | none => rfl
    | some items =>
      dsimp only
      rw [List.length_map, meaningEach_eq_all, meaningEach_eq_all, List.zip_map_left,
        Traced.all_map]
      split
      · rw [Traced.expand_all]
        exact Traced.all_congr fun e he => ih e.1 (List.of_mem_zip he).1 e.2
      · rfl

/-- The events of a test are the events of the guards that it calls, call after call. -/
theorem Pattern.events_meaning (missing : MissingFields) (p : Pattern ε) (v : Value) :
    (p.meaning missing v).events
      = (p.guardCalls missing v).flatMap fun call => (call.1.test call.2).events := by
  -- one announced call, spelled out, is the call itself
  have hf : ∀ (q : Predicate ε Value) (w : Value),
      (q.announced.test w).expand (fun call => (call.1.test call.2).events) = q.test w :=
    fun q w => Traced.ext rfl (List.append_nil _)
  rw [guardCalls, ← expand_meaning_mapGuards hf]
  rfl

/-- **Compilation preserves meaning and evaluation order.** For every pattern, options and value,
the compiled test gives the answer that the pattern means and emits the same events in the same
order. The guards that it calls are the guards that the meaning calls, on the same values and in the
same order, and nothing but these calls emits the events. -/
theorem Pattern.compiled_test_eq_meaning (o : MatchOptions) (p : Pattern ε) (v : Value) :
    (p.compile o).accepts v = p.meaning o.missingFields v ∧
      (p.compile o).guardCalls v = p.guardCalls o.missingFields v ∧
      ((p.compile o).accepts v).events
        = (p.guardCalls o.missingFields v).flatMap fun call => (call.1.test call.2).events := by
  refine ⟨accepts_compile o p v, guardCalls_compile o p v, ?_⟩
  rw [accepts_compile, events_meaning]

end Casewise
