import Casewise.Cases
import Casewise.Document
import Casewise.Pattern.Template
import Casewise.Predicate.Formula
import Casewise.Spec
import Casewise.Value.Occurrence

/-!
# Induction over nested data

Patterns contain lists of patterns, and lists of patterns under a key. The recursor that comes with
such a type speaks of these lists as if they were types of their own. The principles of this module
speak of their members instead: a case over a list may assume the statement of every member.

* `Value.memberInduction`, `Value.partInduction` — induction over values, with a case for each kind,
  or with one case for all kinds.
* `Pattern.memberInduction`, `CompiledPattern.memberInduction` — induction over patterns and over
  compiled patterns.
* `Template.memberInduction` — induction over trees of templates.
* `Formula.memberInduction` — induction over expressions of predicates.
* `Step.memberInduction` — induction over steps of registration.
* `Json.memberInduction`, `PatternSpec.memberInduction` — induction over JSON data and over declared
  patterns.
* `Document.memberInduction` — induction over documents.

The principles are registered, so that a plain `induction p with` uses them.
-/

namespace Casewise

/-- **Induction over values.** A record may assume the statement of what stands under its keys, a
map that of its keys and of its values. -/
@[elab_as_elim, induction_eliminator]
theorem Value.memberInduction {motive : Value → Prop} (undefined : motive .undefined)
    (null : motive .null) (bool : ∀ b, motive (.bool b)) (number : ∀ x, motive (.number x))
    (bigint : ∀ n, motive (.bigint n)) (string : ∀ s, motive (.string s))
    (symbol : ∀ s, motive (.symbol s))
    (array : ∀ items, (∀ v ∈ items, motive v) → motive (.array items))
    (object : ∀ r, (∀ e ∈ r.props, motive e.2) → motive (.object r))
    (map : ∀ entries, (∀ e ∈ entries, motive e.1 ∧ motive e.2) → motive (.map entries))
    (set : ∀ items, (∀ v ∈ items, motive v) → motive (.set items))
    (date : ∀ i, motive (.date i))
    (error : ∀ r, (∀ e ∈ r.props, motive e.2) → motive (.error r))
    (regexp : ∀ source, motive (.regexp source)) (bytes : ∀ content, motive (.bytes content))
    (function : ∀ f, motive (.function f)) (v : Value) : motive v := by
  refine @Value.rec motive (fun vs => ∀ v ∈ vs, motive v) (fun r => ∀ e ∈ r.props, motive e.2)
    (fun es => ∀ e ∈ es, motive e.1 ∧ motive e.2) (fun ps => ∀ e ∈ ps, motive e.2)
    (fun e => motive e.1 ∧ motive e.2) (fun e => motive e.2) undefined null bool number bigint
    string symbol array object map set date error regexp bytes function ?_ ?_ ?_ ?_ ?_ ?_ ?_ ?_ ?_ v
  -- empty lists have no members, longer ones have a first and others, and a record has the members
  -- of its list of properties
  · exact fun _ h => nomatch h
  · exact fun v vs hv hvs => List.forall_mem_cons.2 ⟨hv, hvs⟩
  · exact fun _ _ h => h
  · exact fun _ h => nomatch h
  · exact fun e es he hes => List.forall_mem_cons.2 ⟨he, hes⟩
  · exact fun _ h => nomatch h
  · exact fun e ps he hps => List.forall_mem_cons.2 ⟨he, hps⟩
  · exact fun _ _ hk hv => ⟨hk, hv⟩
  · exact fun _ _ h => h

/-- **Induction over values, all kinds alike.** What holds of a value may be derived from what holds
of its parts. -/
@[elab_as_elim]
theorem Value.partInduction {motive : Value → Prop}
    (step : ∀ v : Value, (∀ p ∈ v.parts, motive p) → motive v) (v : Value) : motive v := by
  induction v with
  | array items ih => exact step _ ih
  | set items ih => exact step _ ih
  | object r ih => exact step _ (List.forall_mem_map.2 ih)
  | error r ih => exact step _ (List.forall_mem_map.2 ih)
  | map entries ih =>
    refine step _ fun p hp => ?_
    -- the two parts of an entry, key and value
    obtain ⟨e, he, hp⟩ := List.mem_flatMap.1 hp
    obtain ⟨hk, hv⟩ := ih e he
    exact List.forall_mem_cons.2 ⟨hk, List.forall_mem_singleton.2 hv⟩ p hp
  | _ => exact step _ fun _ h => nomatch h

/-- **Induction over patterns.** What holds of a list constructor may be derived from what holds of
the members of its list. -/
@[elab_as_elim, induction_eliminator]
theorem Pattern.memberInduction {ε : Type} {motive : Pattern ε → Prop}
    (any : motive .any) (defined : motive .defined)
    (literal : ∀ l, motive (.literal l)) (oneOf : ∀ ls, motive (.oneOf ls))
    (guard : ∀ p, motive (.guard p)) (not : ∀ p, motive p → motive (.not p))
    (allOf : ∀ ps, (∀ p ∈ ps, motive p) → motive (.allOf ps))
    (anyOf : ∀ ps, (∀ p ∈ ps, motive p) → motive (.anyOf ps))
    (fields : ∀ fs, (∀ f ∈ fs, motive f.2) → motive (.fields fs))
    (elements : ∀ ps, (∀ p ∈ ps, motive p) → motive (.elements ps)) (p : Pattern ε) :
    motive p := by
  refine @Pattern.rec ε motive (fun ps => ∀ p ∈ ps, motive p) (fun fs => ∀ f ∈ fs, motive f.2)
    (fun f => motive f.2) any defined literal oneOf guard not allOf anyOf fields elements
    ?_ ?_ ?_ ?_ ?_ p
  -- lists of patterns and of fields: no member, or a first one and others
  · exact fun _ h => nomatch h
  · exact fun p ps hp hps => List.forall_mem_cons.2 ⟨hp, hps⟩
  · exact fun _ h => nomatch h
  · exact fun f fs hf hfs => List.forall_mem_cons.2 ⟨hf, hfs⟩
  · exact fun _ _ h => h

/-- **Induction over compiled patterns.** -/
@[elab_as_elim, induction_eliminator]
theorem CompiledPattern.memberInduction {ε : Type} {motive : CompiledPattern ε → Prop}
    (any : motive .any) (defined : motive .defined)
    (literal : ∀ l, motive (.literal l)) (oneOf : ∀ ls, motive (.oneOf ls))
    (guard : ∀ p, motive (.guard p)) (not : ∀ p, motive p → motive (.not p))
    (allOf : ∀ ps, (∀ p ∈ ps, motive p) → motive (.allOf ps))
    (anyOf : ∀ ps, (∀ p ∈ ps, motive p) → motive (.anyOf ps))
    (fields : ∀ fs missing, (∀ f ∈ fs, motive f.2) → motive (.fields fs missing))
    (elements : ∀ ps, (∀ p ∈ ps, motive p) → motive (.elements ps)) (p : CompiledPattern ε) :
    motive p := by
  refine @CompiledPattern.rec ε motive (fun ps => ∀ p ∈ ps, motive p)
    (fun fs => ∀ f ∈ fs, motive f.2) (fun f => motive f.2) any defined literal oneOf guard not allOf
    anyOf fields elements ?_ ?_ ?_ ?_ ?_ p
  · exact fun _ h => nomatch h
  · exact fun p ps hp hps => List.forall_mem_cons.2 ⟨hp, hps⟩
  · exact fun _ h => nomatch h
  · exact fun f fs hf hfs => List.forall_mem_cons.2 ⟨hf, hfs⟩
  · exact fun _ _ h => h

/-- **Induction over trees of templates.** All branches of an inner node are alike, the first one
too. -/
@[elab_as_elim, induction_eliminator]
theorem Template.memberInduction {ε : Type} {motive : Template ε → Prop}
    (leaf : ∀ p, motive (.leaf p))
    (node : ∀ key child rest, (∀ b ∈ (key, child) :: rest, motive b.2) →
      motive (.node key child rest)) (t : Template ε) : motive t := by
  refine @Template.rec ε motive (fun ts => ∀ b ∈ ts, motive b.2) (fun b => motive b.2) leaf
    ?_ ?_ ?_ ?_ t
  -- the first branch and the others make one list
  · exact fun key child rest hchild hrest =>
      node key child rest (List.forall_mem_cons.2 ⟨hchild, hrest⟩)
  · exact fun _ h => nomatch h
  · exact fun b ts hb hts => List.forall_mem_cons.2 ⟨hb, hts⟩
  · exact fun _ _ h => h

/-- **Induction over expressions of predicates.** -/
@[elab_as_elim, induction_eliminator]
theorem Formula.memberInduction {ι : Type} {motive : Formula ι → Prop}
    (leaf : ∀ i, motive (.leaf i)) (always : motive .always) (never : motive .never)
    (not : ∀ f, motive f → motive (.not f))
    (complement : ∀ f, motive f → motive (.complement f))
    (binary : ∀ c f g, motive f → motive g → motive (.binary c f g))
    (some : ∀ fs, (∀ f ∈ fs, motive f) → motive (.some fs))
    (every : ∀ fs, (∀ f ∈ fs, motive f) → motive (.every fs)) (f : Formula ι) : motive f := by
  refine @Formula.rec ι motive (fun fs => ∀ f ∈ fs, motive f) leaf always never not complement
    binary some every ?_ ?_ f
  · exact fun _ h => nomatch h
  · exact fun f fs hf hfs => List.forall_mem_cons.2 ⟨hf, hfs⟩

/-- **Induction over steps.** The only step with steps inside is a pipe. -/
@[elab_as_elim, induction_eliminator]
theorem Step.memberInduction {τ ρ : Type} {motive : Step τ ρ → Prop}
    (when : ∀ p h, motive (.when p h)) (whenOr : ∀ ps h, motive (.whenOr ps h))
    (whenAnd : ∀ ps h, motive (.whenAnd ps h)) (whenNot : ∀ p h, motive (.whenNot p h))
    (discriminator : ∀ field tags h, motive (.discriminator field tags h))
    (discriminatorStartsWith :
      ∀ field start h, motive (.discriminatorStartsWith field start h))
    (discriminators : ∀ field entries, motive (.discriminators field entries))
    (tag : ∀ l h, motive (.tag l h)) (tags : ∀ entries, motive (.tags entries))
    (withReturnType : motive .withReturnType)
    (pipe : ∀ steps, (∀ s ∈ steps, motive s) → motive (.pipe steps)) (s : Step τ ρ) :
    motive s := by
  refine @Step.rec τ ρ motive (fun steps => ∀ s ∈ steps, motive s) when whenOr whenAnd whenNot
    discriminator discriminatorStartsWith discriminators tag tags withReturnType pipe ?_ ?_ s
  · exact fun _ h => nomatch h
  · exact fun s steps hs hsteps => List.forall_mem_cons.2 ⟨hs, hsteps⟩

/-- **Induction over JSON data.** -/
@[elab_as_elim, induction_eliminator]
theorem Json.memberInduction {motive : Json → Prop} (null : motive .null)
    (bool : ∀ b, motive (.bool b)) (number : ∀ n, motive (.number n))
    (string : ∀ s, motive (.string s))
    (array : ∀ items, (∀ j ∈ items, motive j) → motive (.array items))
    (object : ∀ members, (∀ m ∈ members, motive m.2) → motive (.object members)) (j : Json) :
    motive j := by
  refine @Json.rec motive (fun items => ∀ j ∈ items, motive j)
    (fun members => ∀ m ∈ members, motive m.2) (fun m => motive m.2) null bool number string array
    object ?_ ?_ ?_ ?_ ?_ j
  · exact fun _ h => nomatch h
  · exact fun j items hj hitems => List.forall_mem_cons.2 ⟨hj, hitems⟩
  · exact fun _ h => nomatch h
  · exact fun m members hm hmembers => List.forall_mem_cons.2 ⟨hm, hmembers⟩
  · exact fun _ _ h => h

/-- **Induction over declared patterns.** The JSON data in them is not taken apart. -/
@[elab_as_elim, induction_eliminator]
theorem PatternSpec.memberInduction {motive : PatternSpec → Prop}
    (equals : ∀ j, motive (.equals j)) (oneOf : ∀ js, motive (.oneOf js))
    (not : ∀ s, motive s → motive (.not s)) (type : ∀ t, motive (.type t))
    (startsWith : ∀ start, motive (.startsWith start))
    (fields : ∀ fs, (∀ f ∈ fs, motive f.2) → motive (.fields fs))
    (elements : ∀ ss, (∀ s ∈ ss, motive s) → motive (.elements ss))
    (allOf : ∀ ss, (∀ s ∈ ss, motive s) → motive (.allOf ss))
    (anyOf : ∀ ss, (∀ s ∈ ss, motive s) → motive (.anyOf ss)) (s : PatternSpec) : motive s := by
  refine @PatternSpec.rec motive (fun fs => ∀ f ∈ fs, motive f.2) (fun ss => ∀ s ∈ ss, motive s)
    (fun f => motive f.2) equals oneOf not type startsWith fields elements allOf anyOf
    ?_ ?_ ?_ ?_ ?_ s
  · exact fun _ h => nomatch h
  · exact fun f fs hf hfs => List.forall_mem_cons.2 ⟨hf, hfs⟩
  · exact fun _ h => nomatch h
  · exact fun s ss hs hss => List.forall_mem_cons.2 ⟨hs, hss⟩
  · exact fun _ _ h => h

/-- **Induction over documents.** Keys of tables are documents themselves. -/
@[elab_as_elim, induction_eliminator]
theorem Document.memberInduction {motive : Document → Prop} (null : motive .null)
    (bool : ∀ b, motive (.bool b)) (int : ∀ n, motive (.int n)) (real : ∀ x, motive (.real x))
    (text : ∀ s, motive (.text s)) (list : ∀ ds, (∀ d ∈ ds, motive d) → motive (.list ds))
    (table : ∀ es, (∀ e ∈ es, motive e.1 ∧ motive e.2) → motive (.table es)) (d : Document) :
    motive d := by
  refine @Document.rec motive (fun ds => ∀ d ∈ ds, motive d)
    (fun es => ∀ e ∈ es, motive e.1 ∧ motive e.2) (fun e => motive e.1 ∧ motive e.2) null bool int
    real text list table ?_ ?_ ?_ ?_ ?_ d
  · exact fun _ h => nomatch h
  · exact fun d ds hd hds => List.forall_mem_cons.2 ⟨hd, hds⟩
  · exact fun _ h => nomatch h
  · exact fun e es he hes => List.forall_mem_cons.2 ⟨he, hes⟩
  -- an entry is a document in its key and one in its value
  · exact fun _ _ hk hd => ⟨hk, hd⟩

end Casewise
