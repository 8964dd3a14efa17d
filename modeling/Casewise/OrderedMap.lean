/-!
# Insertion-ordered maps

Objects, records of fields and tables of a document keep their keys in the order in which the keys
first appeared. `OrderedMap κ ν` is a list of entries, read from the front. Keys are compared by
`==`, which only has to be an equivalence.

* `OrderedMap.insert` — a key that is present keeps its place and changes its value; a new key goes
  to the end.
* `OrderedMap.ofList` — insertion of every entry in turn: last value, first position.
* `OrderedMap.get?` — the value under a key.
* `OrderedMap.lastValue?` — the value that a key was given last, whatever came in between.

The views agree: `get?_insert` says what a later look-up sees, `keys_insert` that no key is ever
listed twice or moved, and `distinct_ofList` that what `ofList` builds has distinct keys. It lists
them in the order of their first insertions (`keys_ofList`), and a look-up in it sees the last ones
(`get?_ofList`). Entries with distinct keys are such a map already (`ofList_of_distinct`), and a
look-up finds each of them (`get?_of_mem`), in whatever order they stand (`get?_perm`). Two maps of
one size are compared by the look-ups of one of them (`get?_rel`).
-/

namespace Casewise

/-- Entries in the order in which their keys were first inserted. -/
abbrev OrderedMap (κ ν : Type) := List (κ × ν)

namespace OrderedMap

variable {κ ν : Type} [BEq κ]

/-- The keys in their order. -/
def keys (m : OrderedMap κ ν) : List κ := m.map Prod.fst

/-- The value under `k`. -/
def get? : OrderedMap κ ν → κ → Option ν
  | [], _ => none
  | (k', v) :: m, k => if k' == k then some v else get? m k

/-- Whether there is an entry under the key. -/
def contains (m : OrderedMap κ ν) (k : κ) : Bool := (get? m k).isSome

/-- Puts `v` under `k`: in place if `k` is present, at the end otherwise. -/
def insert : OrderedMap κ ν → κ → ν → OrderedMap κ ν
  | [], k, v => [(k, v)]
  | (k', v') :: m, k, v => if k' == k then (k', v) :: m else (k', v') :: insert m k v

/-- All entries inserted in turn: a repeated key has its last value at its first position. -/
def ofList (entries : List (κ × ν)) : OrderedMap κ ν :=
  entries.foldl (fun m e => insert m e.1 e.2) []

/-- The value that was put under `k` last, of entries that were inserted in turn. -/
def lastValue? (entries : List (κ × ν)) (k : κ) : Option ν :=
  (entries.reverse.find? fun e => e.1 == k).map Prod.snd

/-- No key stands for an earlier one. -/
def Distinct (m : OrderedMap κ ν) : Prop := (keys m).Pairwise fun k k' => (k == k') = false

instance (m : OrderedMap κ ν) : Decidable (Distinct m) :=
  inferInstanceAs (Decidable ((keys m).Pairwise fun k k' => (k == k') = false))

/-- An insertion lists the key at the end unless it is listed already. -/
theorem keys_insert (m : OrderedMap κ ν) (k : κ) (v : ν) :
    keys (insert m k v) = if (keys m).any (· == k) then keys m else keys m ++ [k] := by
  induction m with
  | nil => simp [insert, keys]
  | cons e m ih => grind [insert, keys]

/-- A key is there if one of the listed keys is the same. -/
theorem contains_eq_any (m : OrderedMap κ ν) (k : κ) : contains m k = (keys m).any (· == k) := by
  induction m with
  | nil => rfl
  | cons e m ih => simp_all only [contains, get?, keys, List.map_cons, List.any_cons]; grind

/-- An insertion does not list a key twice. -/
theorem distinct_insert {m : OrderedMap κ ν} (h : Distinct m) (k : κ) (v : ν) :
    Distinct (insert m k v) := by
  rw [Distinct, keys_insert]
  split
  · exact h
  · next hk => exact List.pairwise_append.2 ⟨h, by simp, by simpa using hk⟩

/-- What is built by insertions has distinct keys, whatever the entries repeat. -/
theorem distinct_ofList (entries : List (κ × ν)) : Distinct (ofList entries) := by
  -- the fold starts from an empty map; the induction needs it from any map
  suffices h : ∀ m : OrderedMap κ ν, Distinct m →
      Distinct (entries.foldl (fun m e => insert m e.1 e.2) m) from h [] List.Pairwise.nil
  induction entries with
  | nil => exact fun m hm => hm
  | cons e entries ih => exact fun m hm => ih _ (distinct_insert hm _ _)

/-- A look-up sees the last insertion. -/
theorem get?_insert [EquivBEq κ] (m : OrderedMap κ ν) (k k' : κ) (v : ν) :
    get? (insert m k v) k' = if k == k' then some v else get? m k' := by
  induction m with
  | nil => simp [insert, get?]
  | cons e m ih =>
    obtain ⟨k₀, v₀⟩ := e
    -- whether the first key is the inserted one, and then whether it is the one looked up
    cases hk : k₀ == k
    · cases hk' : k == k'
      · simp [insert, get?, hk, hk', ih]
      · have hk₀ : (k₀ == k') = false := by rw [← BEq.congr_right hk', hk]
        simp [insert, get?, hk, hk', hk₀, ih]
    · cases hk' : k == k' <;> simp [insert, get?, hk, BEq.congr_left hk, hk']

/-- A new key goes to the end. -/
theorem insert_of_contains_eq_false {m : OrderedMap κ ν} {k : κ} (h : contains m k = false)
    (v : ν) : insert m k v = m ++ [(k, v)] := by
  induction m with
  | nil => rfl
  | cons e m ih =>
    cases hk : e.1 == k with
    | true => simp [contains, get?, hk] at h
    | false =>
      have hm : contains m k = false := by simpa [contains, get?, hk] using h
      simp [insert, hk, ih hm]

/-- Entries with distinct keys are a map as they stand. -/
theorem ofList_of_distinct {m : OrderedMap κ ν} (h : Distinct m) : ofList m = m := by
  -- a front is generalized, behind which the entries that are left are put one by one
  suffices hfold : ∀ front : OrderedMap κ ν, Distinct (front ++ m) →
      m.foldl (fun m e => insert m e.1 e.2) front = front ++ m from hfold [] h
  clear h
  induction m with
  | nil => exact fun front _ => (List.append_nil front).symm
  | cons e m ih =>
    intro front hd
    have hassoc : front ++ e :: m = (front ++ [e]) ++ m := by simp
    have hnew : contains front e.1 = false := by
      rw [Distinct, keys, List.map_append, List.pairwise_append] at hd
      rw [contains_eq_any, List.any_eq_false]
      intro k hk
      simp [hd.2.2 k hk e.1 (by simp)]
    rw [List.foldl_cons, insert_of_contains_eq_false hnew, hassoc]
    exact ih _ (hassoc ▸ hd)

/-! ### Entries inserted in turn -/

/-- The last entry is inserted last. -/
theorem ofList_concat (entries : List (κ × ν)) (e : κ × ν) :
    ofList (entries ++ [e]) = insert (ofList entries) e.1 e.2 := List.foldl_append

/-- An earlier entry counts only if no later one has its key. -/
theorem lastValue?_cons (e : κ × ν) (entries : List (κ × ν)) (k : κ) :
    lastValue? (e :: entries) k
      = (lastValue? entries k).or (if e.1 == k then some e.2 else none) := by
  have hfirst : ([e].find? fun e => e.1 == k).map Prod.snd
      = if e.1 == k then some e.2 else none := by
    rw [List.find?_cons]
    cases e.1 == k <;> rfl
  rw [lastValue?, List.reverse_cons, List.find?_append, Option.map_or, hfirst, lastValue?]

/-- A look-up sees the last of the entries under its key, and without one what was there before. -/
theorem get?_foldl_insert [EquivBEq κ] (m : OrderedMap κ ν) (entries : List (κ × ν)) (k : κ) :
    get? (entries.foldl (fun m e => insert m e.1 e.2) m) k
      = (lastValue? entries k).or (get? m k) := by
  induction entries generalizing m with
  | nil => rfl
  | cons e entries ih =>
    rw [List.foldl_cons, ih, get?_insert, lastValue?_cons, Option.or_assoc]
    cases e.1 == k <;> rfl

/-- In a map that is built from entries, a look-up sees the last of those under its key. -/
theorem get?_ofList [EquivBEq κ] (entries : List (κ × ν)) (k : κ) :
    get? (ofList entries) k = lastValue? entries k :=
  (get?_foldl_insert [] entries k).trans Option.or_none

/-- Behind the keys that are there, each new key is listed where it is inserted first. -/
theorem keys_foldl_insert [PartialEquivBEq κ] (m : OrderedMap κ ν) (entries : List (κ × ν)) :
    keys (entries.foldl (fun m e => insert m e.1 e.2) m)
      = keys m ++ ((entries.map Prod.fst).filter fun k => !(keys m).any (· == k)).eraseDups := by
  induction entries generalizing m with
  | nil => simp
  | cons e entries ih =>
    rw [List.foldl_cons, ih, keys_insert, List.map_cons]
    cases he : (keys m).any (· == e.1) with
    | true =>
      -- the key is listed already
      rw [if_pos rfl, List.filter_cons_of_neg (by simp [he])]
    | false =>
      -- a later entry is new if its key was not there before and is not that of `e`
      have hrest : ∀ k, (!(keys m ++ [e.1]).any (· == k))
          = (!(k == e.1) && !(keys m).any (· == k)) := by
        intro k
        rw [List.any_append, List.any_cons, List.any_nil, Bool.or_false, Bool.not_or, BEq.comm,
          Bool.and_comm]
      rw [if_neg Bool.false_ne_true, List.filter_cons_of_pos (by simp [he]), List.eraseDups_cons,
        List.filter_filter, List.append_assoc, List.singleton_append]
      simp only [hrest]

/-- Each key is listed once, in the order in which the keys were inserted first. -/
theorem keys_ofList [PartialEquivBEq κ] (entries : List (κ × ν)) :
    keys (ofList entries) = (entries.map Prod.fst).eraseDups := by
  have hnew : (entries.map Prod.fst).filter (fun k => !(keys ([] : OrderedMap κ ν)).any (· == k))
      = entries.map Prod.fst := List.filter_eq_self.2 fun _ _ => rfl
  rw [ofList, keys_foldl_insert, hnew]
  rfl

/-! ### What holds of all values -/

/-- What holds of the new value and of all old ones holds of all values after an insertion. -/
theorem forall_mem_insert {P : ν → Prop} {m : OrderedMap κ ν} {v : ν} (hm : ∀ e ∈ m, P e.2)
    (hv : P v) (k : κ) : ∀ e ∈ insert m k v, P e.2 := by
  induction m with
  | nil => simpa [insert] using hv
  | cons e m ih =>
    obtain ⟨he, hrest⟩ := List.forall_mem_cons.1 hm
    rw [insert]
    split
    · exact List.forall_mem_cons.2 ⟨hv, hrest⟩
    · exact List.forall_mem_cons.2 ⟨he, ih hrest⟩

/-- What holds of all values of the entries holds of all values of the map. -/
theorem forall_mem_ofList {P : ν → Prop} {entries : List (κ × ν)} (h : ∀ e ∈ entries, P e.2) :
    ∀ e ∈ ofList entries, P e.2 := by
  -- as for `distinct_ofList`, the induction is over the entries and for any map to start from
  suffices hfold : ∀ m : OrderedMap κ ν, (∀ e ∈ m, P e.2) →
      ∀ e ∈ entries.foldl (fun m e => insert m e.1 e.2) m, P e.2 from
    hfold [] fun _ he => nomatch he
  induction entries with
  | nil => exact fun m hm => hm
  | cons e entries ih =>
    obtain ⟨he, hrest⟩ := List.forall_mem_cons.1 h
    exact fun m hm => ih hrest _ (forall_mem_insert hm he _)

/-! ### Look-ups -/

/-- What is found under a key is the value of an entry with that key. -/
theorem exists_mem_of_get? {m : OrderedMap κ ν} {k : κ} {v : ν} (h : get? m k = some v) :
    ∃ e ∈ m, (e.1 == k) = true ∧ e.2 = v := by
  induction m with
  | nil => cases h
  | cons e m ih =>
    rw [get?] at h
    split at h
    · next hk =>
      cases h
      exact ⟨e, List.mem_cons_self, hk, rfl⟩
    · obtain ⟨e', he', hk, hv⟩ := ih h
      exact ⟨e', List.mem_cons_of_mem e he', hk, hv⟩

/-- In a map with distinct keys every entry is found under its key. -/
theorem get?_of_mem [ReflBEq κ] {m : OrderedMap κ ν} (hd : Distinct m) {e : κ × ν} (he : e ∈ m) :
    get? m e.1 = some e.2 := by
  induction m with
  | nil => cases he
  | cons e' m ih =>
    obtain ⟨hfirst, hrest⟩ := List.pairwise_cons.1 hd
    rw [get?]
    rcases List.mem_cons.1 he with rfl | he'
    · rw [if_pos BEq.rfl]
    · have hother : (e'.1 == e.1) = false := hfirst e.1 (List.mem_map_of_mem he')
      rw [if_neg (Bool.eq_false_iff.1 hother)]
      exact ih hrest he'

/-- Where equal keys are the same, a look-up finds exactly the entries of the map. -/
theorem get?_eq_some_iff_mem [LawfulBEq κ] {m : OrderedMap κ ν} (hd : Distinct m) {k : κ} {v : ν} :
    get? m k = some v ↔ (k, v) ∈ m := by
  constructor
  · intro h
    obtain ⟨e, he, hk, rfl⟩ := exists_mem_of_get? h
    -- equal keys being the same, the entry found is the one asked for
    cases eq_of_beq hk
    exact he
  · exact fun he => get?_of_mem hd he

/-- Keys that are one key have one value. -/
theorem get?_congr [EquivBEq κ] (m : OrderedMap κ ν) {k k' : κ} (h : (k == k') = true) :
    get? m k = get? m k' := by
  induction m with
  | nil => rfl
  | cons e m ih => rw [get?, get?, ih, BEq.congr_right h]

/-- What a map with distinct keys has under a key is what its entries say, wherever they stand. -/
theorem get?_eq_some_iff [EquivBEq κ] {m : OrderedMap κ ν} (hd : Distinct m) {k : κ} {v : ν} :
    get? m k = some v ↔ ∃ e ∈ m, (e.1 == k) = true ∧ e.2 = v := by
  constructor
  · exact exists_mem_of_get?
  · rintro ⟨e, he, hk, rfl⟩
    rw [← get?_congr m hk]
    exact get?_of_mem hd he

/-- That keys are distinct does not depend on their order. -/
theorem Distinct.perm [PartialEquivBEq κ] {m n : OrderedMap κ ν} (hd : Distinct m)
    (h : m.Perm n) : Distinct n := by
  have hsymm : ∀ {k k' : κ}, (k == k') = false → (k' == k) = false := by
    intro k k' hk
    rw [BEq.comm, hk]
  exact (List.Perm.pairwise_iff hsymm (h.map Prod.fst)).1 hd

/-- The order of the entries does not matter to a look-up. -/
theorem get?_perm [EquivBEq κ] {m n : OrderedMap κ ν} (hd : Distinct m) (h : m.Perm n) (k : κ) :
    get? m k = get? n k := by
  refine Option.ext fun v => ?_
  rw [get?_eq_some_iff hd, get?_eq_some_iff (hd.perm h)]
  exact exists_congr fun e => and_congr_left fun _ => h.mem_iff

section Map

variable {κ' ν' : Type} [BEq κ'] {f : κ → κ'} (hf : ∀ k k', (f k == f k') = (k == k')) (g : ν → ν')
  (m : OrderedMap κ ν)

include hf

/-- Keys exchanged for others that compare alike are found alike. -/
theorem get?_map (k : κ) : get? (m.map fun e => (f e.1, g e.2)) (f k) = (get? m k).map g := by
  induction m with
  | nil => rfl
  | cons e m ih =>
    rw [List.map_cons, get?, get?, hf, ih]
    split <;> rfl

/-- Exchanging keys for others that compare alike keeps distinct keys distinct, and repeated ones
repeated. -/
theorem distinct_map_iff : Distinct (m.map fun e => (f e.1, g e.2)) ↔ Distinct m := by
  have hkeys : keys (m.map fun e => (f e.1, g e.2)) = (keys m).map f := by
    rw [keys, keys, List.map_map, List.map_map]
    rfl
  rw [Distinct, Distinct, hkeys, List.pairwise_map]
  simp only [hf]

end Map

/-! ### Look-ups in two maps -/

/-- Distinct keys that all occur in a list are no more than there are keys in it. -/
theorem length_le_of_forall_any [EquivBEq κ] {ks ls : List κ}
    (hd : ks.Pairwise fun k k' => (k == k') = false) (h : ∀ k ∈ ks, ls.any (· == k) = true) :
    ks.length ≤ ls.length := by
  induction ks generalizing ls with
  | nil => exact Nat.zero_le _
  | cons k ks ih =>
    obtain ⟨hk, hks⟩ := List.pairwise_cons.1 hd
    obtain ⟨l, hl, hlk⟩ := List.any_eq_true.1 (h k List.mem_cons_self)
    obtain ⟨front, back, rfl⟩ := List.append_of_mem hl
    -- the counterpart of `k` is that of no other key, so the other keys can do without it
    have hrest : ∀ k' ∈ ks, (front ++ back).any (· == k') = true := by
      intro k' hk'
      have hother : (l == k') = false := by rw [BEq.congr_left hlk, hk k' hk']
      simpa [hother] using h k' (List.mem_cons_of_mem k hk')
    have hle := ih hks hrest
    simp only [List.length_append, List.length_cons] at hle ⊢
    omega

/-- A map whose keys all occur in another one is not larger. -/
theorem length_le_of_contains [EquivBEq κ] {μ : Type} {m : OrderedMap κ ν} {n : OrderedMap κ μ}
    (hd : Distinct m) (h : ∀ k, contains m k = true → contains n k = true) :
    m.length ≤ n.length := by
  have hkeys : ∀ k ∈ keys m, (keys n).any (· == k) = true := by
    intro k hk
    have hin : contains m k = true := by
      rw [contains_eq_any, List.any_eq_true]
      exact ⟨k, hk, BEq.rfl⟩
    rw [← contains_eq_any]
    exact h k hin
  have hle := length_le_of_forall_any hd hkeys
  simpa only [keys, List.length_map] using hle

/-- Maps with distinct keys in which the same keys occur are of one size. -/
theorem length_eq_of_contains [EquivBEq κ] {μ : Type} {m : OrderedMap κ ν} {n : OrderedMap κ μ}
    (hm : Distinct m) (hn : Distinct n) (h : ∀ k, contains m k = contains n k) :
    m.length = n.length := by
  refine Nat.le_antisymm (length_le_of_contains hm fun k hk => ?_)
    (length_le_of_contains hn fun k hk => ?_)
  · rw [← h k]
    exact hk
  · rw [h k]
    exact hk

/-- **Counting settles the other direction.** If everything that is found in a map with distinct
keys has a counterpart in another map, and that map is not larger, then what is missing in the first
is missing in the other as well. -/
theorem get?_rel [EquivBEq κ] {μ : Type} {R : ν → μ → Prop} {m : OrderedMap κ ν}
    {n : OrderedMap κ μ} (hd : Distinct m) (hlen : n.length ≤ m.length)
    (h : ∀ k v, get? m k = some v → ∃ w, get? n k = some w ∧ R v w) (k : κ) :
    Option.Rel R (get? m k) (get? n k) := by
  have hkeys : ∀ k' ∈ keys m, (keys n).any (· == k') = true := by
    intro k' hk'
    have hin : contains m k' = true := by
      rw [contains_eq_any, List.any_eq_true]
      exact ⟨k', hk', BEq.rfl⟩
    obtain ⟨v, hv⟩ := Option.isSome_iff_exists.1 hin
    obtain ⟨w, hw, -⟩ := h k' v hv
    rw [← contains_eq_any, contains, hw, Option.isSome_some]
  cases hm : get? m k with
  | some v =>
    obtain ⟨w, hw, hvw⟩ := h k v hm
    rw [hw]
    exact .some hvw
  | none =>
    cases hn : get? n k with
    | none => exact .none
    | some w =>
      -- with `k` the first map would have more keys than the other has entries
      have hnew : ∀ k' ∈ keys m, (k == k') = false := by
        intro k' hk'
        have hnone : (keys m).any (· == k) = false := by
          rw [← contains_eq_any, contains, hm, Option.isSome_none]
        rw [BEq.comm]
        simpa using List.any_eq_false.1 hnone k' hk'
      have hk : (keys n).any (· == k) = true := by
        rw [← contains_eq_any, contains, hn, Option.isSome_some]
      have hle := length_le_of_forall_any (List.pairwise_cons.2 ⟨hnew, hd⟩)
        (List.forall_mem_cons.2 ⟨hk, hkeys⟩)
      simp only [keys, List.length_cons, List.length_map] at hle
      omega

end OrderedMap

end Casewise
