import Casewise.Json.Text
import Casewise.Proofs.NestedInduction
import Casewise.Rules.WellFormed

/-!
# Documents and JSON data

JSON data and documents are two views of what a text says. The way from JSON data to a document and
back loses nothing, and the way from a document to JSON data ends in well-formed data whatever the
document is like: repeated keys are merged on the way, and infinities and NaN become `null`.

* `Json.toJson?_toDocument` — well-formed data come back from the document that spells them.
* `Document.wellFormed_of_toJson?` — what a document spells is well formed.
* `Document.Finite.eq_null_of_toJson?` — a finite document that spells `null` is `null`.
* `Document.finite_of_ofJsonText?` — the document of a JSON text is finite.
-/

namespace Casewise

/-! ### Lists read member by member -/

/-- If every member comes back from what is made of it, so does the list. -/
theorem mapM_map_of_forall {α β : Type} {f : β → Option α} {g : α → β} {as : List α}
    (h : ∀ a ∈ as, f (g a) = some a) : (as.map g).mapM f = some as := by
  induction as with
  | nil => rfl
  | cons a as ih =>
    obtain ⟨ha, has⟩ := List.forall_mem_cons.1 h
    rw [List.map_cons, List.mapM_cons, ha, ih has]
    rfl

/-- Every member of a list that has been read stems from a member of the other list. -/
theorem exists_of_mem_mapM {α β : Type} {f : α → Option β} {as : List α} {bs : List β}
    (h : as.mapM f = some bs) {b : β} (hb : b ∈ bs) : ∃ a ∈ as, f a = some b := by
  induction as generalizing bs with
  | nil =>
    cases h
    cases hb
  | cons a as ih =>
    rw [List.mapM_cons] at h
    obtain ⟨b', hb', h⟩ := Option.bind_eq_some_iff.1 h
    obtain ⟨bs', hbs', h⟩ := Option.bind_eq_some_iff.1 h
    cases h
    -- the member is the one that has just been read, or one that was read behind it
    rcases List.mem_cons.1 hb with rfl | hb
    · exact ⟨a, List.mem_cons_self, hb'⟩
    · obtain ⟨a', ha', hf⟩ := ih hbs' hb
      exact ⟨a', List.mem_cons_of_mem a ha', hf⟩

/-! ### From JSON data to documents and back -/

namespace Json

/-- The items of an array are made into documents one by one. -/
theorem toDocuments_eq_map (js : List Json) : toDocuments js = js.map toDocument := by
  induction js with
  | nil => rfl
  | cons j js ih => rw [toDocuments, ih, List.map_cons]

/-- The members of an object are made into entries whose keys are texts. -/
theorem toEntries_eq_map (ms : List (String × Json)) :
    toEntries ms = ms.map fun m => (.text m.1, m.2.toDocument) := by
  induction ms with
  | nil => rfl
  | cons m ms ih => rw [toEntries, ih, List.map_cons]

end Json

namespace Document

/-- The items of a list are read one by one, and all of them have to be JSON data. -/
theorem toJsonItems?_eq_mapM (ds : List Document) : toJsonItems? ds = ds.mapM toJson? := by
  induction ds with
  | nil => rfl
  | cons d ds ih =>
    rw [toJsonItems?, ih, List.mapM_cons]

/-- The member of an object that an entry of a table spells. -/
def member? (e : Document × Document) : Option (String × Json) := do
  let key ← e.1.text?
  let j ← e.2.toJson?
  return (key, j)

/-- The entries of a table are read one by one, and all of them have to be members. -/
theorem toJsonMembers?_eq_mapM (es : List (Document × Document)) :
    toJsonMembers? es = es.mapM member? := by
  induction es with
  | nil => rfl
  | cons e es ih =>
    rw [toJsonMembers?, ih, List.mapM_cons]
    simp [member?, Option.bind_assoc]

/-- A member is spelled by an entry with its key for a text. -/
theorem member?_eq_some_iff {e : Document × Document} {m : String × Json} :
    member? e = some m ↔ e.2.toJson? = some m.2 ∧ e.1 = .text m.1 := by
  obtain ⟨k, d⟩ := e
  obtain ⟨key, j⟩ := m
  cases k <;> simp [member?, text?, Option.bind_eq_some_iff]

end Document

/-- **Well-formed JSON data come back from their document.** -/
theorem Json.toJson?_toDocument {j : Json} (h : j.WellFormed) : j.toDocument.toJson? = some j := by
  induction j with
  | null => rfl
  | bool b => rfl
  | number n =>
    cases n with
    | int n => rfl
    | real x =>
      have hx : x.isFinite = true := h
      -- only a word that is not finite would become `null`
      rw [toDocument, Document.toJson?, Document.realToJson, if_pos hx]
  | string s => rfl
  | array items ih =>
    have hitems : (items.map toDocument).mapM Document.toJson? = some items :=
      mapM_map_of_forall fun j hj => ih j hj (wellFormedEach_iff.1 h j hj)
    rw [toDocument, toDocuments_eq_map, Document.toJson?, Document.toJsonItems?_eq_mapM, hitems]
    rfl
  | object members ih =>
    obtain ⟨hd, hwf⟩ := h
    have hmembers : (members.map fun m => (Document.text m.1, m.2.toDocument)).mapM
        Document.member? = some members :=
      mapM_map_of_forall fun m hm => Document.member?_eq_some_iff.2
        ⟨ih m hm (wellFormedMembers_iff.1 hwf m hm), rfl⟩
    -- the members are inserted in turn, which changes nothing where all keys are distinct
    rw [toDocument, toEntries_eq_map, Document.toJson?, Document.toJsonMembers?_eq_mapM, hmembers,
      Option.map_some, OrderedMap.ofList_of_distinct hd]

/-- What a document spells is well formed. -/
theorem Document.wellFormed_of_toJson? {d : Document} {j : Json} (h : d.toJson? = some j) :
    j.WellFormed := by
  induction d generalizing j with
  | null | bool | int | text =>
    cases h
    trivial
  | real x =>
    cases h
    rw [realToJson]
    split
    · next hx => exact hx
    · -- an infinity or a NaN, which becomes `null`
      trivial
  | list ds ih =>
    rw [toJson?, toJsonItems?_eq_mapM] at h
    obtain ⟨js, hjs, rfl⟩ := Option.map_eq_some_iff.1 h
    refine Json.wellFormedEach_iff.2 fun j hj => ?_
    obtain ⟨d, hd, hdj⟩ := exists_of_mem_mapM hjs hj
    exact ih d hd hdj
  | table es ih =>
    rw [toJson?, toJsonMembers?_eq_mapM] at h
    obtain ⟨ms, hms, rfl⟩ := Option.map_eq_some_iff.1 h
    have hwf : ∀ m ∈ ms, m.2.WellFormed := by
      intro m hm
      obtain ⟨e, he, hem⟩ := exists_of_mem_mapM hms hm
      exact (ih e he).2 (member?_eq_some_iff.1 hem).1
    -- inserting in turn leaves one member under each key
    exact ⟨OrderedMap.distinct_ofList ms,
      Json.wellFormedMembers_iff.2 (OrderedMap.forall_mem_ofList hwf)⟩

/-! ### Finite documents -/

/-- Well-formed JSON data make a finite document. -/
theorem Json.WellFormed.finite_toDocument {j : Json} (h : j.WellFormed) : j.toDocument.Finite := by
  induction j with
  | null | bool | string => trivial
  | number n =>
    cases n with
    | int n => trivial
    | real x => exact h
  | array items ih =>
    rw [toDocument, toDocuments_eq_map]
    refine Document.finiteEach_iff.2 (List.forall_mem_map.2 fun j hj => ?_)
    exact ih j hj (wellFormedEach_iff.1 h j hj)
  | object members ih =>
    rw [toDocument, toEntries_eq_map]
    refine Document.finiteEntries_iff.2 (List.forall_mem_map.2 fun m hm => ⟨trivial, ?_⟩)
    exact ih m hm (wellFormedMembers_iff.1 h.2 m hm)

/-- Nothing but `null` itself spells `null`, as long as there are no infinities and NaN. -/
theorem Document.Finite.eq_null_of_toJson? {d : Document} (hd : d.Finite)
    (h : d.toJson? = some .null) : d = .null := by
  cases d with
  | null => rfl
  | real x =>
    have hx : x.isFinite = true := hd
    simp [toJson?, realToJson, hx] at h
  | _ => simp [toJson?] at h

/-! ### Documents of JSON texts -/

namespace JsonText

/-- A number that is too large for a word is refused, so what is read is finite. -/
theorem finite_of_finite? {x : Binary64} {d : Document} (h : finite? x = some d) : d.Finite := by
  rw [finite?] at h
  split at h
  · next hx =>
    cases h
    exact hx
  · cases h

/-- An integer that does not fit is read as a word, if it is a finite one. -/
theorem finite_of_integer? {negative : Bool} {n : Nat} {d : Document}
    (h : integer? negative n = some d) : d.Finite := by
  simp only [integer?] at h
  split at h
  · cases h
    -- a zero with a sign is the one integer that is read as a word
    show Binary64.negativeZero.isFinite = true
    decide
  · generalize (if negative = true then -(n : Int) else n) = i at h
    split at h
    · cases h
      trivial
    · exact finite_of_finite? h

/-- The number that is read is an integer or a finite word. -/
theorem finite_of_number? {cs rest : List Char} {d : Document}
    (h : number? cs = some (d, rest)) : d.Finite := by
  unfold number? at h
  obtain ⟨⟨whole, cs₁⟩, -, h⟩ := Option.bind_eq_some_iff.1 h
  obtain ⟨⟨fraction, cs₂⟩, -, h⟩ := Option.bind_eq_some_iff.1 h
  obtain ⟨⟨exponent, cs₃⟩, -, h⟩ := Option.bind_eq_some_iff.1 h
  dsimp only at h
  -- with neither a fraction nor an exponent it is an integer
  split at h
  · obtain ⟨d', hd, h⟩ := Option.bind_eq_some_iff.1 h
    cases h
    exact finite_of_integer? hd
  · obtain ⟨d', hd, h⟩ := Option.bind_eq_some_iff.1 h
    cases h
    exact finite_of_finite? hd

/-- A word is read as the document it stands for. -/
theorem finite_of_word? {word : String} {d d' : Document} {cs rest : List Char}
    (h : word? word d cs = some (d', rest)) (hd : d.Finite) : d'.Finite := by
  obtain ⟨_, -, h⟩ := Option.map_eq_some_iff.1 h
  cases h
  exact hd

/-- With so much fuel only finite documents are read. -/
structure ReadsFinite (fuel : Nat) : Prop where
  value {i : Interest} {depth : Nat} {cs rest : List Char} {d : Document} :
    value? fuel i depth cs = some (d, rest) → d.Finite
  items {first : List Interest} {other : Interest} {depth : Nat} {cs rest : List Char}
    {ds : List Document} :
    items? fuel first other depth cs = some (ds, rest) → ∀ d ∈ ds, d.Finite
  members {i : Interest} {depth : Nat} {cs rest : List Char}
    {es : List (Document × Document)} :
    members? fuel i depth cs = some (es, rest) → ∀ e ∈ es, e.1.Finite ∧ e.2.Finite

namespace ReadsFinite

variable {fuel depth : Nat} {i : Interest} {cs rest : List Char}

/-- A value is finite if the items and members in it are. -/
theorem value_succ (hf : ReadsFinite fuel) {d : Document}
    (h : value? (fuel + 1) i depth cs = some (d, rest)) : d.Finite := by
  rw [value?] at h
  -- the first character tells a string, a list, a table and the three words from a number
  split at h
  · obtain ⟨_, -, h⟩ := Option.map_eq_some_iff.1 h
    cases h
    trivial
  · split at h
    · cases h
    · split at h
      · cases h
        trivial
      · obtain ⟨⟨ds, _⟩, hds, h⟩ := Option.map_eq_some_iff.1 h
        cases h
        exact Document.finiteEach_iff.2 (hf.items hds)
  · split at h
    · cases h
    · split at h
      · cases h
        trivial
      · obtain ⟨⟨es, _⟩, hes, h⟩ := Option.map_eq_some_iff.1 h
        cases h
        exact Document.finiteEntries_iff.2 (hf.members hes)
  · exact finite_of_word? h trivial
  · exact finite_of_word? h trivial
  · exact finite_of_word? h trivial
  · exact finite_of_number? h

/-- Items are finite if the first one is and the ones behind it are. -/
theorem items_succ (hf : ReadsFinite fuel) {first : List Interest} {other : Interest}
    {ds : List Document} (h : items? (fuel + 1) first other depth cs = some (ds, rest)) :
    ∀ d ∈ ds, d.Finite := by
  rw [items?] at h
  obtain ⟨⟨d, _⟩, hd, h⟩ := Option.bind_eq_some_iff.1 h
  dsimp only at h
  split at h
  · obtain ⟨⟨ds', _⟩, hds, h⟩ := Option.bind_eq_some_iff.1 h
    cases h
    exact List.forall_mem_cons.2 ⟨hf.value hd, hf.items hds⟩
  · cases h
    exact List.forall_mem_singleton.2 (hf.value hd)
  · cases h

/-- The members behind one that has been read, or passed over. -/
theorem members_tail (hf : ReadsFinite fuel) {found es : List (Document × Document)}
    (hfound : ∀ e ∈ found, e.1.Finite ∧ e.2.Finite)
    (h : (match skipBlanks cs with
      | ',' :: cs => do
        let (es, rest) ← members? fuel i depth cs
        return (found ++ es, rest)
      | '\x7d' :: rest => return (found, rest)
      | _ => none) = some (es, rest)) : ∀ e ∈ es, e.1.Finite ∧ e.2.Finite := by
  -- a comma has members behind it, and a closing brace ends the object
  split at h
  · obtain ⟨⟨es', _⟩, hes, h⟩ := Option.bind_eq_some_iff.1 h
    cases h
    exact List.forall_mem_append.2 ⟨hfound, hf.members hes⟩
  · cases h
    exact hfound
  · cases h

/-- Members are finite if the value of the first one is and the ones behind it are. -/
theorem members_succ (hf : ReadsFinite fuel) {es : List (Document × Document)}
    (h : members? (fuel + 1) i depth cs = some (es, rest)) :
    ∀ e ∈ es, e.1.Finite ∧ e.2.Finite := by
  rw [members?] at h
  split at h
  · obtain ⟨⟨key, _⟩, -, h⟩ := Option.bind_eq_some_iff.1 h
    dsimp only at h
    split at h
    · -- the entry is wanted, or it is passed over
      split at h
      · obtain ⟨⟨d, _⟩, hd, h⟩ := Option.bind_eq_some_iff.1 h
        have hfound : ∀ e ∈ [(Document.text key, d)], e.1.Finite ∧ e.2.Finite :=
          List.forall_mem_singleton.2 ⟨trivial, hf.value hd⟩
        exact hf.members_tail hfound h
      · obtain ⟨_, -, h⟩ := Option.bind_eq_some_iff.1 h
        exact hf.members_tail (List.forall_mem_nil _) h
    · cases h
  · cases h

end ReadsFinite

/-- The induction is on the fuel that values, items and members share. -/
theorem readsFinite (fuel : Nat) : ReadsFinite fuel := by
  induction fuel with
  | zero => exact ⟨nofun, nofun, nofun⟩
  | succ fuel hf => exact ⟨hf.value_succ, hf.items_succ, hf.members_succ⟩

end JsonText

/-- **JSON texts are finite.** A number beyond all doubles is refused, and there is no spelling of
an infinity or a NaN. -/
theorem Document.finite_of_ofJsonText? {wanted : Interest} {s : String} {d : Document}
    (h : Document.ofJsonText? wanted s = some d) : d.Finite := by
  rw [ofJsonText?] at h
  split at h
  · next hd =>
    split at h
    · cases h
      exact (JsonText.readsFinite _).value hd
    · cases h
  · cases h

end Casewise
