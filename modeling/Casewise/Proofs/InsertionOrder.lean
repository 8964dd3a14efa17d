import Casewise.Proofs.EqualityLaws
import Casewise.Value.Construction

/-!
# Records keep the order of insertion

A record shows all that was done to it and nothing else: each key stands once, at the place where it
was inserted first, with the value that it was given last. This holds after any calls, and a look-up
says the same as the list of properties. Where a key was inserted shows in the order of the keys,
but not in any comparison: records of one class with the same values under the same keys are equal,
as far as the values are equal to themselves.

* `Record.props_call`, `Record.props_run` — the properties are the insertions, made in turn, of a
  call and of a whole program;
* `Record.distinct_run` — so no key ever stands twice;
* `OrderedMap.filter_ofList` — insertions under keys of one kind do not touch the keys of another;
* `Value.equalsRecord_of_get?` — what a comparison of two records comes down to if their keys have
  the same values;
* `Record.run_keeps_insertion_order` — all of it in one statement.
-/

namespace Casewise

/-! ### Kinds of keys -/

namespace OrderedMap

variable {κ ν : Type} [BEq κ] {p : κ → Bool} (hp : ∀ k k', (k == k') = true → p k = p k')

include hp

/-- If a kind of keys does not cut through equal ones, an insertion is seen in the entries of its
own kind only. -/
theorem filter_insert (m : OrderedMap κ ν) (k : κ) (v : ν) :
    (insert m k v).filter (fun e => p e.1)
      = if p k then insert (m.filter fun e => p e.1) k v else m.filter fun e => p e.1 := by
  induction m with
  | nil => cases hk : p k <;> simp [insert, hk]
  | cons e m ih =>
    rw [insert]
    cases hek : e.1 == k with
    | true =>
      -- the entry is given another value, and it is of the kind of the key
      have hsame : p e.1 = p k := hp e.1 k hek
      cases hk : p k <;> simp [hsame, hk, insert, hek]
    | false =>
      -- the first entry stays where it is, so it is kept or not as before
      rw [if_neg Bool.false_ne_true, List.filter_cons, List.filter_cons, ih]
      cases p e.1 <;> cases p k <;> simp [insert, hek]

/-- So it is with any number of insertions. -/
theorem filter_ofList (entries : List (κ × ν)) :
    (ofList entries).filter (fun e => p e.1) = ofList (entries.filter fun e => p e.1) := by
  suffices h : ∀ m : OrderedMap κ ν,
      (entries.foldl (fun m e => insert m e.1 e.2) m).filter (fun e => p e.1)
        = (entries.filter fun e => p e.1).foldl (fun m e => insert m e.1 e.2)
            (m.filter fun e => p e.1) from h []
  induction entries with
  | nil => exact fun m => rfl
  | cons e entries ih =>
    intro m
    rw [List.foldl_cons, ih, filter_insert hp, List.filter_cons]
    cases p e.1 <;> rfl

end OrderedMap

/-- Keys that are one key are both strings or both symbols. -/
theorem PropertyKey.isSome_text?_eq {k k' : PropertyKey} (h : (k == k') = true) :
    k.text?.isSome = k'.text?.isSome := by
  cases k with
  | string s =>
    cases k' with
    | string s' => rfl
    | symbol y' => cases h
  | symbol y =>
    cases k' with
    | string s' => cases h
    | symbol y' => rfl

/-! ### Records with the same look-ups -/

namespace Value

/-- Records of one class, with the same values under the same keys, are equal exactly if the values
are equal to themselves. -/
theorem equalsRecord_of_get? {r s : Record Value} (hr : OrderedMap.Distinct r.props)
    (hs : OrderedMap.Distinct s.props) (hclass : r.className = s.className)
    (hget : ∀ key, r.get? key = s.get? key) :
    equalsRecord r s = true ↔ ∀ v ∈ r.props.map Prod.snd, v.equals v = true := by
  -- under each key the second record has what the first one has itself
  have hsame : equalsRecord r s = true ↔ equalsRecord r r = true := by
    rw [equalsRecord_iff_of_distinct hr hs, equalsRecord_iff_of_distinct hr hr, hclass]
    simp only [hget]
  rw [hsame, equalsRecord_self_iff hr]

end Value

namespace Record

variable {ν : Type}

/-! ### A call -/

/-- **A call keeps a record and its insertions in step.** -/
theorem props_call {r : Record ν} {insertions : List (PropertyKey × ν)}
    (h : r.props = OrderedMap.ofList insertions) (c : RecordCall ν) :
    (r.call c).props = OrderedMap.ofList (c.extend insertions) := by
  -- an insertion is one more at the end
  have hinsert : ∀ key value, (r.insert key value).props
      = OrderedMap.ofList (insertions ++ [(key, value)]) := by
    intro key value
    rw [OrderedMap.ofList_concat, ← h]
    rfl
  cases c with
  | exchange key value => exact hinsert key value
  | insert key value => exact hinsert key value
  | collect entries => rfl

/-- A class is lost in a collection and nowhere else. -/
theorem className_call (r : Record ν) (c : RecordCall ν) :
    (r.call c).className = if c.isCollect then none else r.className := by
  cases c <;> rfl

/-! ### Runs -/

variable (className : Option String) (calls : List (RecordCall ν))

/-- The properties are the insertions, made in turn. -/
theorem props_run : (run className calls).props
    = OrderedMap.ofList (RecordCall.insertions calls) := by
  suffices h : ∀ (r : Record ν) (insertions : List (PropertyKey × ν)),
      r.props = OrderedMap.ofList insertions →
      (calls.foldl call r).props = OrderedMap.ofList (calls.foldl RecordCall.extend insertions) from
    h { className } [] rfl
  -- the induction is for any record that is in step with its insertions
  induction calls with
  | nil => exact fun r insertions h => h
  | cons c calls ih => exact fun r insertions h => ih (r.call c) _ (props_call h c)

/-- The class is that of the beginning, unless there was a collection. -/
theorem className_run : (run className calls).className
    = if calls.any RecordCall.isCollect then none else className := by
  suffices h : ∀ r : Record ν, (calls.foldl call r).className
      = if calls.any RecordCall.isCollect then none else r.className from h { className }
  induction calls with
  | nil => exact fun r => rfl
  | cons c calls ih =>
    intro r
    rw [List.foldl_cons, ih, className_call, List.any_cons]
    cases c.isCollect <;> simp

/-- No key stands twice. -/
theorem distinct_run : OrderedMap.Distinct (run className calls).props := by
  rw [props_run]
  exact OrderedMap.distinct_ofList _

/-- A look-up finds what was inserted last. -/
theorem get?_run (key : PropertyKey) : (run className calls).get? key
    = OrderedMap.lastValue? (RecordCall.insertions calls) key := by
  rw [get?, props_run, OrderedMap.get?_ofList]

/-- The keys stand in the order of their first insertions. -/
theorem keys_run : (run className calls).keys
    = ((RecordCall.insertions calls).map Prod.fst).eraseDups := by
  rw [keys, props_run, OrderedMap.keys_ofList]

/-- What is listed under a key is what was inserted there last. -/
theorem lastValue?_of_mem_props {e : PropertyKey × ν} (he : e ∈ (run className calls).props) :
    OrderedMap.lastValue? (RecordCall.insertions calls) e.1 = some e.2 := by
  rw [← get?_run className]
  exact OrderedMap.get?_of_mem (distinct_run className calls) he

/-- The properties under keys of one kind are left by the insertions under such keys alone. -/
theorem filter_props_run (isText : Bool) :
    (run className calls).props.filter (fun e => e.1.text?.isSome == isText)
      = (ofList
          ((RecordCall.insertions calls).filter fun e => e.1.text?.isSome == isText)).props := by
  -- keys of two kinds are never equal
  have hkind : ∀ k k' : PropertyKey, (k == k') = true →
      (k.text?.isSome == isText) = (k'.text?.isSome == isText) := by
    intro k k' h
    rw [PropertyKey.isSome_text?_eq h]
  rw [props_run]
  exact OrderedMap.filter_ofList hkind _

/-! ### The laws together -/

/-- **Records are maps that keep the order of insertion.** Let a program build a record by any
calls, beginning with an empty one, of a class or without. What counts is what was inserted since
then, or, if there was a collection, the entries of the last one and what was inserted after it.

* Each key that was ever inserted is listed exactly once, in the order of the first insertions, and
  with the value of its last insertion.
* One more insertion that asks for the value before it is answered with the one that was inserted
  last, or told that there is none.
* Look-ups, size and emptiness agree with what is listed.
* The class is that of the beginning, unless there was a collection, which has none.
* Insertions under strings are not seen under symbols, nor the other way around: the properties
  under either kind of keys are what the insertions under such keys alone leave.
* If another program, by whatever calls, ends with the same class and the same values under the same
  keys, the objects are equal, provided that each of the values is equal to itself. -/
theorem run_keeps_insertion_order (className : Option String) (calls : List (RecordCall Value)) :
    let r := run className calls
    let insertions := RecordCall.insertions calls
    (r.keys = (insertions.map Prod.fst).eraseDups ∧ OrderedMap.Distinct r.props ∧
      ∀ e ∈ r.props, OrderedMap.lastValue? insertions e.1 = some e.2) ∧
    (∀ key v, (r.exchange key v).1 = OrderedMap.lastValue? insertions key) ∧
    ((∀ key v, r.get? key = some v ↔ ∃ e ∈ r.props, (e.1 == key) = true ∧ e.2 = v) ∧
      (∀ key, r.contains key = r.keys.any (· == key)) ∧
      r.size = r.keys.length ∧ r.isEmpty = r.keys.isEmpty) ∧
    r.className = (if calls.any RecordCall.isCollect then none else className) ∧
    ((∀ text symbol v,
        (r.insert (.string text) v).get? (.symbol symbol) = r.get? (.symbol symbol) ∧
        (r.insert (.symbol symbol) v).get? (.string text) = r.get? (.string text)) ∧
      ∀ isText : Bool, r.props.filter (fun e => e.1.text?.isSome == isText)
        = (ofList (insertions.filter fun e => e.1.text?.isSome == isText)).props) ∧
    ∀ (className' : Option String) (calls' : List (RecordCall Value)),
      let s := run className' calls'
      r.className = s.className → (∀ key, r.get? key = s.get? key) →
        ((Value.object r == Value.object s) = true ↔ ∀ e ∈ r.props, (e.2 == e.2) = true) := by
  intro r insertions
  have hd : OrderedMap.Distinct r.props := distinct_run className calls
  have hlast : ∀ e ∈ r.props, OrderedMap.lastValue? insertions e.1 = some e.2 :=
    fun e he => lastValue?_of_mem_props className calls he
  have hsize : r.size = r.keys.length := (List.length_map _).symm
  have hempty : r.isEmpty = r.keys.isEmpty := List.isEmpty_map.symm
  refine ⟨⟨keys_run className calls, hd, hlast⟩, fun key _ => get?_run className calls key,
    ⟨fun key v => OrderedMap.get?_eq_some_iff hd,
      fun key => OrderedMap.contains_eq_any r.props key, hsize, hempty⟩,
    className_run className calls, ⟨?_, filter_props_run className calls⟩, ?_⟩
  · intro text symbol v
    have hstring : (r.insert (.string text) v).get? (.symbol symbol) = r.get? (.symbol symbol) :=
      OrderedMap.get?_insert r.props (.string text) (.symbol symbol) v
    have hsymbol : (r.insert (.symbol symbol) v).get? (.string text) = r.get? (.string text) :=
      OrderedMap.get?_insert r.props (.symbol symbol) (.string text) v
    exact ⟨hstring, hsymbol⟩
  · intro className' calls' s hclass hget
    have hs : OrderedMap.Distinct s.props := distinct_run className' calls'
    have hequal := Value.equalsRecord_of_get? hd hs hclass hget
    exact hequal.trans List.forall_mem_map

/-- A symbol with the description `k` is another key than the string `k`. The same two properties
are put together in both orders, once with detours: of the class that the second record begins with
and of the NaN that it holds for a while nothing is left. -/
theorem run_keeps_insertion_order_of_two_kinds_of_keys :
    let symbol : PropertyKey := .symbol ⟨1, some "k"⟩
    let r : Record Value := run none
      [.insert (.string "k") (.bool false), .insert symbol .null,
        .exchange (.string "k") (.bool true)]
    let s : Record Value := run (some "Box")
      [.insert (.string "b") .undefined, .collect [(symbol, .number .nan)],
        .insert (.string "k") (.bool true), .exchange symbol .null]
    r.props = [(.string "k", .bool true), (symbol, .null)] ∧
      s.props = [(symbol, .null), (.string "k", .bool true)] ∧
      (r.exchange (.string "k") .null).1 = some (.bool true) ∧
      (Value.object r == Value.object s) = true := by
  intro symbol r s
  obtain ⟨⟨-, hd, -⟩, hanswer, -, -, -, hequal⟩ := run_keeps_insertion_order none
    [.insert (.string "k") (.bool false), .insert symbol .null,
      .exchange (.string "k") (.bool true)]
  -- the two properties have changed places
  have hget : ∀ key, r.get? key = s.get? key :=
    fun key => OrderedMap.get?_perm hd (List.Perm.swap _ _ _) key
  refine ⟨rfl, rfl, hanswer (.string "k") .null, (hequal (some "Box") _ rfl hget).2 ?_⟩
  exact List.forall_mem_cons.2 ⟨rfl, List.forall_mem_singleton.2 rfl⟩

end Record

end Casewise
