import Casewise.Proofs.Documents
import Casewise.Spec.Encoding

/-!
# Declarations written and read back

A declaration is written as a table with one entry, whose name is the form of the declaration and
whose payload is anything at all: JSON data under `equals` may look like a declaration themselves.
Reading tries nine forms in a fixed order. What decides between them is the name, never the payload:
a form that is tried finds the entry under its own name or nothing (`Reading.sole?_singleton`), so
the only form that can accept the entry is the one that it was written for.

Both directions go through one relation. `Reading.Spells r s` says that a reading is acceptable to
the form of `s` and makes it `s`. A lone entry that spells `s` is read as `s`
(`Reading.Spells.select?_singleton`), and whatever is read in any table, some entry spells it
(`Reading.exists_spells_of_select?`).

* `PatternSpec.wellFormed_toJson` — a written declaration is well-formed JSON data.
* `PatternSpec.ofDocument?_toJson` — a written declaration is read back as it was.
* `PatternSpec.wellFormed_of_ofDocument?` — whatever is read is well formed.
-/

namespace Casewise

/-! ### The written form -/

namespace PatternSpec

/-- The name of the only entry of a written declaration. -/
def form : PatternSpec → String
  | .equals _ => "equals"
  | .oneOf _ => "is"
  | .not _ => "not"
  | .type _ => "type"
  | .startsWith _ => "startsWith"
  | .fields _ => "fields"
  | .elements _ => "elements"
  | .allOf _ => "allOf"
  | .anyOf _ => "anyOf"

/-- What is written under that name. -/
def payload : PatternSpec → Json
  | .equals j => j
  | .oneOf js => .array js
  | .not s => s.toJson
  | .type t => .string t.name
  | .startsWith start => .string start
  | .fields fs => .object (toJsonFields fs)
  | .elements ss => .array (toJsonEach ss)
  | .allOf ss => .array (toJsonEach ss)
  | .anyOf ss => .array (toJsonEach ss)

/-- A declaration is written as an object with one member. -/
theorem toJson_eq (s : PatternSpec) : s.toJson = .object [(s.form, s.payload)] := by
  cases s <;> rfl

/-- A list of declarations is written one by one. -/
theorem toJsonEach_eq_map (ss : List PatternSpec) : toJsonEach ss = ss.map toJson := by
  induction ss with
  | nil => rfl
  | cons s ss ih => rw [toJsonEach, ih, List.map_cons]

/-- The fields of a template are written one by one, under their keys. -/
theorem toJsonFields_eq_map (fs : List (String × PatternSpec)) :
    toJsonFields fs = fs.map fun f => (f.1, f.2.toJson) := by
  induction fs with
  | nil => rfl
  | cons f fs ih => rw [toJsonFields, ih, List.map_cons]

/-- A written declaration is well-formed JSON data. -/
theorem wellFormed_toJson {s : PatternSpec} (h : s.WellFormed) : s.toJson.WellFormed := by
  -- one key alone is distinct, so only the payload is in question
  have hlone {s : PatternSpec} (hp : s.payload.WellFormed) : s.toJson.WellFormed := by
    rw [toJson_eq]
    exact ⟨List.pairwise_singleton _ _, hp, trivial⟩
  induction s with
  | equals j => exact hlone h
  | oneOf js => exact hlone (Json.wellFormedEach_iff.2 h)
  | not s ih => exact hlone (ih h)
  | type t => exact hlone trivial
  | startsWith start => exact hlone trivial
  | fields fs ih =>
    obtain ⟨hd, hwf⟩ := h
    -- writing leaves the keys of a template as they are
    have hkeys : OrderedMap.keys (fs.map fun f => (f.1, f.2.toJson)) = OrderedMap.keys fs :=
      List.map_map
    refine hlone ⟨?_, Json.wellFormedMembers_iff.2 ?_⟩
    · rw [toJsonFields_eq_map, OrderedMap.Distinct, hkeys]
      exact hd
    · rw [toJsonFields_eq_map]
      exact List.forall_mem_map.2 fun f hf => ih f hf (wellFormedFields_iff.1 hwf f hf)
  | elements ss ih | allOf ss ih | anyOf ss ih =>
    refine hlone (Json.wellFormedEach_iff.2 ?_)
    rw [toJsonEach_eq_map]
    exact List.forall_mem_map.2 fun s hs => ih s hs (wellFormedEach_iff.1 h s hs)

/-! ### The form decides -/

/-- The field of a template that an entry of a table spells. -/
def field? (e : Document × Document) : Option (String × PatternSpec) := do
  let key ← e.1.text?
  let spec ← ofDocument? e.2
  return (key, spec)

/-- A field is spelled by an entry with its key for a text. -/
theorem field?_eq_some_iff {e : Document × Document} {f : String × PatternSpec} :
    field? e = some f ↔ ofDocument? e.2 = some f.2 ∧ e.1 = .text f.1 := by
  obtain ⟨k, d⟩ := e
  obtain ⟨key, s⟩ := f
  cases k <;> simp [field?, Document.text?, Option.bind_eq_some_iff]

end PatternSpec

namespace Reading

open PatternSpec (ofDocument? field?)

/-- A reading keeps the document that it is of. -/
theorem document_of (d : Document) : (of d).document = d := by
  cases d <;> rfl

/-- A list is read item by item. -/
theorem ofEach_eq_map (ds : List Document) : ofEach ds = ds.map of := by
  induction ds with
  | nil => rfl
  | cons d ds ih => rw [ofEach, ih, List.map_cons]

/-- A table is read entry by entry, and its keys are left as they are. -/
theorem ofEntries_eq_map (es : List (Document × Document)) :
    ofEntries es = es.map fun e => (e.1, of e.2) := by
  induction es with
  | nil => rfl
  | cons e es ih => rw [ofEntries, ih, List.map_cons]

/-- As a declaration, a table is what the forms select in it. -/
theorem spec?_of_table (es : List (Document × Document)) :
    (of (.table es)).spec? = select? (es.map fun e => (e.1, of e.2)) := by
  rw [of, ofEntries_eq_map]

/-- As a list of declarations, a list is what its items are as declarations. -/
theorem specs?_of_list (ds : List Document) : (of (.list ds)).specs? = ds.mapM ofDocument? := by
  rw [of, ofEach_eq_map]
  exact List.mapM_map

/-- As a template, a table is what its entries are as fields, inserted in turn. -/
theorem fields?_of_table (es : List (Document × Document)) :
    (of (.table es)).fields? = (es.mapM field?).map OrderedMap.ofList := by
  rw [of, ofEntries_eq_map]
  exact congrArg (Option.map OrderedMap.ofList) List.mapM_map

/-- As a list of data, a list is what its items are as JSON data. -/
theorem items?_of_list (ds : List Document) :
    (of (.list ds)).items? = ds.mapM Document.toJson? := by
  rw [items?, document_of]
  exact Document.toJsonItems?_eq_mapM ds

/-- In a table with one entry a form finds that entry or nothing. -/
theorem sole?_singleton (form name : String) (r : Reading) :
    sole? form [(.text name, r)] = if name == form then some r else none := by
  simp [sole?, names?]

/-- What a form finds in a table is the reading of an entry. -/
theorem mem_of_sole? {form : String} {entries : List (Document × Reading)} {r : Reading}
    (h : sole? form entries = some r) : ∃ e ∈ entries, e.2 = r := by
  induction entries with
  | nil => cases h
  | cons e entries ih =>
    rw [sole?] at h
    obtain ⟨found, -, h⟩ := Option.bind_eq_some_iff.1 h
    split at h
    · split at h
      · cases h
        exact ⟨e, List.mem_cons_self, rfl⟩
      · cases h
    · obtain ⟨e', he', hr⟩ := ih h
      exact ⟨e', List.mem_cons_of_mem e he', hr⟩

/-- The reading of an entry is acceptable to the form of the declaration, which then says this. -/
def Spells (r : Reading) : PatternSpec → Prop
  | .equals j => r.document.toJson? = some j
  | .oneOf js => r.items? = some js
  | .not s => r.spec? = some s
  | .type t => typeName? r.document = some t
  | .startsWith start => r.document.text? = some start
  | .fields fs => r.fields? = some fs
  | .elements ss => r.specs? = some ss
  | .allOf ss => r.specs? = some ss
  | .anyOf ss => r.specs? = some ss

/-- A lone entry is read by its own form, however many forms would accept it under another name. -/
theorem Spells.select?_singleton {r : Reading} {s : PatternSpec} (h : r.Spells s) :
    select? [(.text s.form, r)] = some s := by
  cases s <;> simpa [select?, sole?_singleton, PatternSpec.form, Spells] using h

/-- What one form finds acceptable in a table is the reading of an entry. -/
theorem exists_of_alternative {α : Type} {form : String} {read? : Reading → Option α}
    {make : α → PatternSpec} {entries : List (Document × Reading)} {s : PatternSpec}
    (h : ((sole? form entries).bind read?).map make = some s) :
    ∃ e ∈ entries, ∃ a, read? e.2 = some a ∧ make a = s := by
  obtain ⟨a, h, hs⟩ := Option.map_eq_some_iff.1 h
  obtain ⟨r, hr, ha⟩ := Option.bind_eq_some_iff.1 h
  obtain ⟨e, he, rfl⟩ := mem_of_sole? hr
  exact ⟨e, he, a, ha, hs⟩

/-- Whatever is read in a table, some entry spells it. -/
theorem exists_spells_of_select? {entries : List (Document × Reading)} {s : PatternSpec}
    (h : select? entries = some s) : ∃ e ∈ entries, e.2.Spells s := by
  simp only [select?, Option.orElse_eq_orElse, Option.orElse_eq_or, Option.or_eq_some_iff] at h
  -- one alternative for each form, in the order in which the forms are tried
  rcases h with h | ⟨-, h | ⟨-, h | ⟨-, h | ⟨-, h | ⟨-, h | ⟨-, h | ⟨-, h | ⟨-, h⟩⟩⟩⟩⟩⟩⟩⟩
  all_goals
    obtain ⟨e, he, a, ha, rfl⟩ := exists_of_alternative h
    exact ⟨e, he, ha⟩

end Reading

namespace PatternSpec

/-- A declaration is read back from its written form if its only entry spells it. -/
theorem ofDocument?_of_spells {s : PatternSpec} (h : (Reading.of s.payload.toDocument).Spells s) :
    ofDocument? s.toJson.toDocument = some s := by
  rw [toJson_eq, Json.toDocument, Json.toEntries_eq_map, ofDocument?, Reading.spec?_of_table]
  exact h.select?_singleton

/-- **A written declaration is spelled by its only entry.** The induction is on the declaration. -/
theorem spells_payload {s : PatternSpec} (h : s.WellFormed) :
    (Reading.of s.payload.toDocument).Spells s := by
  induction s with
  | equals j =>
    rw [Reading.Spells, Reading.document_of]
    exact Json.toJson?_toDocument h
  | oneOf js =>
    rw [Reading.Spells, payload, Json.toDocument, Json.toDocuments_eq_map, Reading.items?_of_list]
    exact mapM_map_of_forall fun j hj => Json.toJson?_toDocument (h j hj)
  | not s ih =>
    -- the payload is a written declaration, which is read back by the induction hypothesis
    exact ofDocument?_of_spells (ih h)
  | type t => cases t <;> rfl
  | startsWith start => rfl
  | fields fs ih =>
    obtain ⟨hd, hwf⟩ := h
    have hfields : (fs.map fun f => (Document.text f.1, f.2.toJson.toDocument)).mapM field? =
        some fs :=
      mapM_map_of_forall fun f hf => field?_eq_some_iff.2
        ⟨ofDocument?_of_spells (ih f hf (wellFormedFields_iff.1 hwf f hf)), rfl⟩
    -- a table read as a template inserts its fields in turn, so their keys have to be distinct
    rw [Reading.Spells, payload, Json.toDocument, Json.toEntries_eq_map, Reading.fields?_of_table,
      toJsonFields_eq_map, List.map_map]
    exact (congrArg _ hfields).trans (congrArg some (OrderedMap.ofList_of_distinct hd))
  | elements ss ih | allOf ss ih | anyOf ss ih =>
    rw [Reading.Spells, payload, Json.toDocument, Json.toDocuments_eq_map, toJsonEach_eq_map,
      List.map_map, Reading.specs?_of_list]
    exact mapM_map_of_forall fun s hs =>
      ofDocument?_of_spells (ih s hs (wellFormedEach_iff.1 h s hs))

/-- **A declaration is read back from its written form.** -/
theorem ofDocument?_toJson {s : PatternSpec} (h : s.WellFormed) :
    ofDocument? s.toJson.toDocument = some s :=
  ofDocument?_of_spells (spells_payload h)

end PatternSpec

/-! ### Loaded declarations are well formed -/

/-- Whatever a reading says is well formed. -/
structure Reading.WellFormed (r : Reading) : Prop where
  spec : ∀ s, r.spec? = some s → s.WellFormed
  specs : ∀ ss, r.specs? = some ss → ∀ s ∈ ss, s.WellFormed
  fields : ∀ fs, r.fields? = some fs → OrderedMap.Distinct fs ∧ ∀ f ∈ fs, f.2.WellFormed

namespace Reading

/-- The data in a list are well formed. -/
theorem wellFormed_of_items? {r : Reading} {js : List Json} (h : r.items? = some js) :
    ∀ j ∈ js, j.WellFormed := by
  intro j hj
  rw [items?] at h
  split at h
  · rw [Document.toJsonItems?_eq_mapM] at h
    obtain ⟨d, -, hd⟩ := exists_of_mem_mapM h hj
    exact Document.wellFormed_of_toJson? hd
  · cases h

/-- A declaration is well formed if all that its payload says is. -/
theorem Spells.wellFormed {r : Reading} (hr : r.WellFormed) {s : PatternSpec} (h : r.Spells s) :
    s.WellFormed := by
  cases s with
  | equals j => exact Document.wellFormed_of_toJson? h
  | oneOf js => exact wellFormed_of_items? h
  | not s => exact hr.spec s h
  | type t => trivial
  | startsWith start => trivial
  | fields fs =>
    obtain ⟨hd, hfs⟩ := hr.fields fs h
    exact ⟨hd, PatternSpec.wellFormedFields_iff.2 hfs⟩
  | elements ss | allOf ss | anyOf ss => exact PatternSpec.wellFormedEach_iff.2 (hr.specs ss h)

/-- The readings of all documents are well formed. -/
theorem wellFormed_of (d : Document) : (of d).WellFormed := by
  induction d with
  | null | bool | int | real | text => exact ⟨nofun, nofun, nofun⟩
  | list ds ih =>
    refine ⟨nofun, fun ss hss s hs => ?_, nofun⟩
    rw [specs?_of_list] at hss
    -- as a payload, a list is read as declarations
    obtain ⟨d, hd, hds⟩ := exists_of_mem_mapM hss hs
    exact (ih d hd).spec s hds
  | table es ih =>
    refine ⟨fun s hs => ?_, nofun, fun fs hfs => ?_⟩
    -- a table is read as a declaration, or as a template
    · rw [spec?_of_table] at hs
      obtain ⟨e, he, hes⟩ := exists_spells_of_select? hs
      obtain ⟨e', he', rfl⟩ := List.mem_map.1 he
      exact hes.wellFormed (ih e' he').2
    · rw [fields?_of_table] at hfs
      obtain ⟨fs', hfs', rfl⟩ := Option.map_eq_some_iff.1 hfs
      refine ⟨OrderedMap.distinct_ofList fs', OrderedMap.forall_mem_ofList fun f hf => ?_⟩
      obtain ⟨e, he, hef⟩ := exists_of_mem_mapM hfs' hf
      exact (ih e he).2.spec f.2 (PatternSpec.field?_eq_some_iff.1 hef).1

end Reading

/-- **Whatever is read is well formed.** -/
theorem PatternSpec.wellFormed_of_ofDocument? {d : Document} {s : PatternSpec}
    (h : ofDocument? d = some s) : s.WellFormed :=
  (Reading.wellFormed_of d).spec s h

end Casewise
