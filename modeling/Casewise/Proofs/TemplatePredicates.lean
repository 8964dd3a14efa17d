import Casewise.Predicate.Positional
import Casewise.Predicate.Refinement
import Casewise.Proofs.Navigation

/-!
# Templates as combined predicates

A template is a pattern with patterns inside. The same test can be combined from predicates, those
of the patterns inside: `Predicate.shape` for properties, `Predicate.tuple` behind
`Refinement.array` for positions. Templates and combinators have each their own rules for inputs
that are not object-like, for keys and positions that are missing, and for when to stop.

* `Pattern.predicate` — the predicate of a pattern, and `Pattern.announcing` — the same with guards
  that announce their calls.
* `Pattern.predicate_fields_of_undefined`, `Pattern.predicate_elements` — the predicate of a
  template is combined from the predicates of its parts.
* `Pattern.value_test_fields_of_reject` — where missing properties are rejected, a template asks in
  addition that all of its keys are there.
* `Pattern.templates_are_combined_predicates` — the laws together, with the guards that are called
  and the parts that are evaluated on the way.

Equality of predicates is meant throughout: for every input the same answer and the same events in
the same order.
-/

namespace Casewise

variable {ε : Type}

namespace Predicate

variable {α : Type}

/-- A shape asks each of its predicates about the value that is read under the key. -/
theorem test_shape_map (fs : List (PropertyKey × α)) (f : α → Predicate ε Value) (v : Value) :
    (shape (fs.map fun e => (e.1, f e.2))).test v
      = if v.isObjectLike then Traced.all (fun e => (f e.2).test (v.get e.1)) fs
        else pure false := by
  dsimp only [shape]
  rw [Traced.all_map]

/-- A tuple asks each of its predicates about the item at its position. -/
theorem test_tuple_map (as : List α) (f : α → Predicate ε Value) (items : List Value) :
    (tuple (as.map f)).test items
      = if as.length ≤ items.length then Traced.all (fun e => (f e.1).test e.2) (as.zip items)
        else pure false := by
  dsimp only [tuple, zipped]
  rw [List.length_map, List.zip_map_left, Traced.all_map]
  rfl

end Predicate

namespace Pattern

/-- The predicate of a pattern under the given options. -/
def predicate (o : MatchOptions) (p : Pattern ε) : Predicate ε Value := (p.compile o).toPredicate

/-- The predicate of a pattern whose guards announce their calls and emit nothing else, once it has
been compiled. -/
def announcing (o : MatchOptions) (p : Pattern ε) : Predicate (GuardCall ε) Value :=
  ((p.compile o).mapGuards .announced).toPredicate

/-- The pattern as a single guard, of which a call is one evaluation of the pattern. -/
def asGuard (o : MatchOptions) (p : Pattern ε) : Pattern ε := .guard (p.predicate o)

variable (o : MatchOptions)

theorem test_predicate (p : Pattern ε) (v : Value) :
    (p.predicate o).test v = (p.compile o).accepts v := rfl

/-- The guards may be exchanged for announced ones before the pattern is compiled. -/
theorem announcing_eq (p : Pattern ε) : p.announcing o = (p.mapGuards .announced).predicate o :=
  congrArg CompiledPattern.toPredicate (compile_mapGuards .announced o p).symm

/-! ### Properties -/

section Fields

variable {o} (fs : List (PropertyKey × Pattern ε))

/-- A template over properties asks each part about the value that is read under its key, provided
that the treatment of missing properties permits to go there. -/
theorem test_fields (v : Value) :
    ((fields fs).predicate o).test v
      = if v.isObjectLike then
          Traced.all (fun f =>
            if o.missingFields.permits v f.1 then (f.2.predicate o).test (v.get f.1)
            else pure false) fs
        else pure false := by
  rw [test_predicate, compile, CompiledPattern.accepts, CompiledPattern.acceptsFields_eq_all,
    compileFields_eq_map, Traced.all_map]
  -- the compiled template and the predicates look for a property in two ways, which agree on what
  -- is object-like
  by_cases hlike : v.isObjectLike = true
  · rw [if_pos hlike, if_pos hlike]
    exact Traced.all_congr fun f _ => MissingFields.ask_eq_get hlike _
  · rw [if_neg hlike, if_neg hlike]

/-- **A template over properties is a shape**, if missing properties are tested as `undefined`. -/
theorem predicate_fields_of_undefined (h : o.missingFields = .undefined) :
    (fields fs).predicate o = .shape (fs.map fun f => (f.1, f.2.predicate o)) := by
  refine Predicate.ext_test fun v => ?_
  rw [test_fields, Predicate.test_shape_map]
  by_cases hlike : v.isObjectLike = true
  · -- of what is object-like every key may be read
    have hpermits : ∀ key, o.missingFields.permits v key = true := by
      intro key
      rw [h]
      exact hlike
    simp only [hpermits, if_true]
  · rw [if_neg hlike, if_neg hlike]

/-- Where missing properties are rejected, it is a shape of which all keys are there. -/
theorem value_test_fields_of_reject (h : o.missingFields = .reject) (v : Value) :
    (((fields fs).predicate o).test v).value = true ↔
      ((Predicate.shape (fs.map fun f => (f.1, f.2.predicate o))).test v).value = true ∧
        ∀ f ∈ fs, v.hasProperty f.1 = true := by
  -- under this treatment, a step is permitted exactly to what is there
  have hpart : ∀ f : PropertyKey × Pattern ε,
      (if o.missingFields.permits v f.1 then (f.2.predicate o).test (v.get f.1)
        else pure false).value = true ↔
      ((f.2.predicate o).test (v.get f.1)).value = true ∧ v.hasProperty f.1 = true := by
    intro f
    rw [h, MissingFields.permits]
    cases v.hasProperty f.1 <;> simp
  rw [test_fields, Predicate.test_shape_map]
  by_cases hlike : v.isObjectLike = true
  · rw [if_pos hlike, if_pos hlike, Traced.value_all, Traced.value_all,
      List.all_eq_true, List.all_eq_true, ← forall_and]
    refine forall_congr' fun f => ?_
    rw [← imp_and]
    exact imp_congr_right fun _ => hpart f
  -- a value that is not object-like is accepted by neither, whatever the keys
  · rw [if_neg hlike, if_neg hlike]
    exact iff_of_false Bool.false_ne_true fun hshape => Bool.false_ne_true hshape.1

/-- The guards that a shape calls are those of the template. -/
theorem announcing_fields_of_undefined (h : o.missingFields = .undefined) :
    (fields fs).announcing o = .shape (fs.map fun f => (f.1, f.2.announcing o)) := by
  -- announced guards make another template, of which the law is known already
  simp only [announcing_eq]
  rw [mapGuards, mapGuardsFields_eq_map, predicate_fields_of_undefined _ h, List.map_map]
  rfl

end Fields

/-! ### Positions -/

section Elements

variable (ps : List (Pattern ε))

/-- **A template over positions is a tuple**, asked about the items of an array. -/
theorem predicate_elements :
    (elements ps).predicate o = Refinement.array.andThen (.tuple (ps.map (predicate o))) := by
  refine Predicate.ext_test fun v => ?_
  rw [test_predicate, compile, CompiledPattern.accepts, compileEach_eq_map, Refinement.andThen]
  dsimp only [Refinement.array]
  cases v.items? with
  -- not an array: the refinement fails, and so does the template
  | none => rfl
  | some items =>
    dsimp only
    rw [Predicate.test_tuple_map, CompiledPattern.acceptsEach_eq_all, List.length_map,
      List.zip_map_left, Traced.all_map]
    rfl

/-- The guards that a tuple calls are those of the template. -/
theorem announcing_elements :
    (elements ps).announcing o = Refinement.array.andThen (.tuple (ps.map (announcing o))) := by
  have hparts : ps.map (announcing o) = ps.map (predicate o ∘ mapGuards .announced) :=
    List.map_congr_left fun p _ => announcing_eq o p
  rw [announcing_eq, mapGuards, mapGuardsEach_eq_map, predicate_elements, List.map_map, hparts]

end Elements

/-- **Templates are combined predicates.** Let the parts of a template be compiled under the options
of the template.

* Where missing properties are tested as `undefined`, a template over properties is the shape of the
  predicates of its parts. Where they are rejected, it holds if and only if the shape holds and all
  of its keys are properties of the input.
* A template over positions is the tuple of the predicates of its parts, asked about the items of an
  array; of at least one part it is their product as well.

Where predicates are equal, so are they if the guards announce their calls, and if the parts
announce their evaluations: the same guards are called on the same values in the same order, and so
are the parts evaluated. -/
theorem templates_are_combined_predicates (o : MatchOptions) :
    (∀ fs : List (PropertyKey × Pattern ε),
      let u : MatchOptions := { o with missingFields := .undefined }
      let r : MatchOptions := { o with missingFields := .reject }
      ((fields fs).predicate u = .shape (fs.map fun f => (f.1, f.2.predicate u)) ∧
        (fields fs).announcing u = .shape (fs.map fun f => (f.1, f.2.announcing u)) ∧
        (fields (fs.map fun f => (f.1, f.2.asGuard u))).announcing u
          = .shape (fs.map fun f => (f.1, (f.2.predicate u).announced))) ∧
      ∀ v, (((fields fs).predicate r).test v).value = true ↔
        ((Predicate.shape (fs.map fun f => (f.1, f.2.predicate r))).test v).value = true ∧
          ∀ f ∈ fs, v.hasProperty f.1 = true) ∧
    (∀ ps : List (Pattern ε),
      (elements ps).predicate o = Refinement.array.andThen (.tuple (ps.map (predicate o))) ∧
      (elements ps).announcing o = Refinement.array.andThen (.tuple (ps.map (announcing o))) ∧
      (elements (ps.map (asGuard o))).announcing o
        = Refinement.array.andThen (.tuple (ps.map fun p => (p.predicate o).announced))) ∧
    ∀ (p : Pattern ε) (ps : List (Pattern ε)),
      (elements (p :: ps)).predicate o
        = Refinement.array.andThen (.productMany (p.predicate o) (ps.map (predicate o))) ∧
      (elements (p :: ps)).announcing o
        = Refinement.array.andThen (.productMany (p.announcing o) (ps.map (announcing o))) ∧
      (elements ((p :: ps).map (asGuard o))).announcing o
        = Refinement.array.andThen (.productMany (p.predicate o).announced
            (ps.map fun q => (q.predicate o).announced)) := by
  -- a product of at least one predicate is the tuple of all of them
  have helements : ∀ ps : List (Pattern ε),
      (elements ps).predicate o = Refinement.array.andThen (.tuple (ps.map (predicate o))) ∧
      (elements ps).announcing o = Refinement.array.andThen (.tuple (ps.map (announcing o))) ∧
      (elements (ps.map (asGuard o))).announcing o
        = Refinement.array.andThen (.tuple (ps.map fun p => (p.predicate o).announced)) := by
    intro ps
    refine ⟨predicate_elements o ps, announcing_elements o ps, ?_⟩
    rw [announcing_elements, List.map_map]
    rfl
  refine ⟨fun fs => ?_, helements, fun p ps => helements (p :: ps)⟩
  intro u r
  refine ⟨⟨predicate_fields_of_undefined fs rfl, announcing_fields_of_undefined fs rfl, ?_⟩,
    value_test_fields_of_reject fs rfl⟩
  rw [announcing_fields_of_undefined _ rfl, List.map_map]
  rfl

end Pattern

end Casewise
