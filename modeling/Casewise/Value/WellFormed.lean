import Casewise.Value.Occurrence

/-!
# Well-formed values

A record lists every key once. All that is made with the operations on records is so, but nothing in
the type `Record` says it: values are plain data, and what has to hold of them at every depth is
said here.

* `Value.WellFormed` — the keys of every record in the value are distinct, at every depth.
* `Value.wellFormedRecord_ofList` — what is built from a list of entries is well formed, whatever
  keys the list repeats.
* `Value.WellFormed.part`, `Value.WellFormed.property?`, `Value.WellFormed.item` — what is found in
  a well-formed value is well formed.
-/

namespace Casewise.Value

mutual

/-- The keys of every record in the value are distinct. -/
def WellFormed : Value → Prop
  | .array items => WellFormedEach items
  | .object r => WellFormedRecord r
  | .map entries => WellFormedPairs entries
  | .set items => WellFormedEach items
  | .error r => WellFormedRecord r
  | _ => True
termination_by structural v => v

/-- The keys of the record are distinct, and its values are well formed. -/
def WellFormedRecord : Record Value → Prop
  | ⟨_, ps⟩ => OrderedMap.Distinct ps ∧ WellFormedProps ps
termination_by structural r => r

/-- What stands under the keys is well formed; that keys are distinct is asked of a record only. -/
def WellFormedProps : List (PropertyKey × Value) → Prop
  | [] => True
  | (_, v) :: ps => WellFormed v ∧ WellFormedProps ps
termination_by structural ps => ps

/-- The items of an array or a set are well formed. -/
def WellFormedEach : List Value → Prop
  | [] => True
  | v :: vs => WellFormed v ∧ WellFormedEach vs
termination_by structural vs => vs

/-- The keys and the values of a map are well formed. Nothing is asked of how the keys compare. -/
def WellFormedPairs : List (Value × Value) → Prop
  | [] => True
  | (k, v) :: vs => WellFormed k ∧ WellFormed v ∧ WellFormedPairs vs
termination_by structural vs => vs

end

/-- The recursion over properties says what a quantifier over them would; so do the two after it. -/
theorem wellFormedProps_iff {ps : List (PropertyKey × Value)} :
    WellFormedProps ps ↔ ∀ e ∈ ps, e.2.WellFormed := by
  induction ps with
  | nil => simp [WellFormedProps]
  | cons e ps ih => rw [WellFormedProps, ih, List.forall_mem_cons]

/-- Items are well formed if each of them is. -/
theorem wellFormedEach_iff {vs : List Value} : WellFormedEach vs ↔ ∀ v ∈ vs, v.WellFormed := by
  induction vs with
  | nil => simp [WellFormedEach]
  | cons v vs ih => rw [WellFormedEach, ih, List.forall_mem_cons]

/-- Entries of a map are well formed if both sides of each of them are. -/
theorem wellFormedPairs_iff {es : List (Value × Value)} :
    WellFormedPairs es ↔ ∀ e ∈ es, e.1.WellFormed ∧ e.2.WellFormed := by
  induction es with
  | nil => simp [WellFormedPairs]
  | cons e es ih => rw [WellFormedPairs, ih, List.forall_mem_cons, and_assoc]

/-- What is asked of a record, apart from its class: distinct keys and well-formed values. -/
theorem wellFormedRecord_iff {r : Record Value} :
    WellFormedRecord r ↔ OrderedMap.Distinct r.props ∧ ∀ e ∈ r.props, e.2.WellFormed := by
  rw [← wellFormedProps_iff, WellFormedRecord]

/-- A later entry replaces an earlier one under the same key, so the record has distinct keys even
if the list repeats some. -/
theorem wellFormedRecord_ofList {entries : List (PropertyKey × Value)}
    (h : ∀ e ∈ entries, e.2.WellFormed) : WellFormedRecord (.ofList entries) :=
  wellFormedRecord_iff.2 ⟨OrderedMap.distinct_ofList entries, OrderedMap.forall_mem_ofList h⟩

/-- The properties that a well-formed object or error carries make a well-formed record. -/
theorem WellFormed.record? {v : Value} (h : v.WellFormed) {r : Record Value}
    (hr : v.record? = some r) : WellFormedRecord r := by
  cases v with
  | object s => cases hr; exact h
  | error s => cases hr; exact h
  | _ => cases hr

/-- The parts of a well-formed value are well formed. -/
theorem WellFormed.part {v p : Value} (h : v.WellFormed) (hp : p ∈ v.parts) : p.WellFormed := by
  cases v with
  | array items => exact wellFormedEach_iff.1 h p hp
  | set items => exact wellFormedEach_iff.1 h p hp
  | object r =>
    obtain ⟨e, he, rfl⟩ := List.mem_map.1 hp
    exact (wellFormedRecord_iff.1 h).2 e he
  | error r =>
    obtain ⟨e, he, rfl⟩ := List.mem_map.1 hp
    exact (wellFormedRecord_iff.1 h).2 e he
  | map entries =>
    -- a map has two parts for each entry, its key and its value
    obtain ⟨e, he, hp⟩ := List.mem_flatMap.1 hp
    obtain ⟨hk, hv⟩ := wellFormedPairs_iff.1 h e he
    rcases List.mem_cons.1 hp with rfl | hp
    · exact hk
    · rw [List.mem_singleton.1 hp]
      exact hv
  | _ => cases hp

/-- Looking up a key in a well-formed value finds a well-formed value. -/
theorem WellFormed.property? {v : Value} (h : v.WellFormed) {key : PropertyKey} {w : Value}
    (hw : v.property? key = some w) : w.WellFormed := by
  obtain ⟨r, hr, hget⟩ := Option.bind_eq_some_iff.1 hw
  obtain ⟨e, he, -, rfl⟩ := OrderedMap.exists_mem_of_get? hget
  exact (wellFormedRecord_iff.1 (h.record? hr)).2 e he

/-- Items of a well-formed array are well formed. -/
theorem WellFormed.item {v : Value} (h : v.WellFormed) {vs : List Value} (hvs : v.items? = some vs)
    {w : Value} (hw : w ∈ vs) : w.WellFormed := by
  cases v with
  | array items => cases hvs; exact wellFormedEach_iff.1 h w hw
  | _ => cases hvs

end Casewise.Value
