import Casewise.Proofs.SpecRoundTrip
import Casewise.Spec.Grammar

/-!
# Reading follows the grammar

Reading a declaration tries nine forms and falls through from one to the next without a word: a
payload that one form cannot make sense of may be overruled by a later form, at every depth. Over
well-formed data the outcome is the one that the grammar states, with keys looked up where reading
searches entries, and with conditions on payloads where reading has failures of other readers.

* `Reading.read?`, `Reading.select?_eq_findSome?` — what one form makes of a payload, and reading as
  a search through the list of forms.
* `Reading.sole?_of_distinct` — in a table with distinct keys a form finds what is looked up under
  its name, wherever it stands and whatever stands beside it.
* `Json.readsByGrammar_object`, `Json.ReadsByGrammar.payload` — the two steps of the induction: from
  the payloads in an object to the declaration that it is, and from there to what it says to a form
  as a payload itself.
* `PatternSpec.read_exactly_by_grammar` — what is accepted, and as which declaration.
-/

namespace Casewise

open PatternSpec (Form ofDocument? field?)

/-! ### Lists read member by member -/

/-- A list can be read exactly if each of its members can. -/
theorem isSome_mapM_iff {α β : Type} {f : α → Option β} {as : List α} :
    (as.mapM f).isSome = true ↔ ∀ a ∈ as, (f a).isSome = true := by
  induction as with
  | nil => simp
  | cons a as ih =>
    rw [List.forall_mem_cons, ← ih, List.mapM_cons]
    cases f a with
    | none => simp
    | some b => cases as.mapM f <;> simp

/-! ### Forms in a table -/

namespace Reading

/-- What a form makes of the reading that it finds under its name. -/
def read? (r : Reading) : Form → Option PatternSpec
  | .equals => r.document.toJson?.map .equals
  | .is => r.items?.map .oneOf
  | .not => r.spec?.map .not
  | .type => (typeName? r.document).map .type
  | .startsWith => r.document.text?.map .startsWith
  | .fields => r.fields?.map .fields
  | .elements => r.specs?.map .elements
  | .allOf => r.specs?.map .allOf
  | .anyOf => r.specs?.map .anyOf

/-- Reading a table is a search for the first form that can make something of its entry. -/
theorem select?_eq_findSome? (entries : List (Document × Reading)) :
    select? entries
      = Form.all.findSome? fun form => (sole? form.name entries).bind (read? · form) := by
  -- a search tries one form and then the others, as reading does
  have hcons : ∀ (f : Form → Option PatternSpec) form forms,
      (form :: forms).findSome? f = (f form).or (forms.findSome? f) := by
    intro f form forms
    rw [List.findSome?_cons]
    cases f form <;> rfl
  simp only [select?, Form.all, hcons, List.findSome?_nil, Option.or_none, Option.orElse_eq_orElse,
    Option.orElse_eq_or, Option.map_bind]
  rfl

/-- A text names a form if it is its name. -/
theorem names?_text (name key : String) : names? name (.text key) = some (key == name) := rfl

/-- In a table with distinct keys a form finds what stands under its name. -/
theorem sole?_of_distinct {α : Type} {members : List (String × α)}
    (hd : OrderedMap.Distinct members) (name : String) (f : α → Reading) :
    sole? name (members.map fun m => (.text m.1, f m.2))
      = (OrderedMap.get? members name).map f := by
  induction members with
  | nil => rfl
  | cons m members ih =>
    obtain ⟨hfirst, hrest⟩ := List.pairwise_cons.1 hd
    rw [List.map_cons, sole?, OrderedMap.get?, ih hrest]
    cases hm : m.1 == name with
    -- the name is looked for behind
    | false => simp [names?_text, hm]
    | true =>
      -- the name stands here, and so nowhere behind
      have hothers : (members.map fun m => (Document.text m.1, f m.2)).all
          (fun e => names? name e.1 == some false) = true := by
        refine List.all_eq_true.2 (List.forall_mem_map.2 fun e he => ?_)
        have hother : (m.1 == e.1) = false := hfirst e.1 (List.mem_map_of_mem he)
        rw [eq_of_beq hm, BEq.comm] at hother
        rw [names?_text, hother]
        rfl
      rw [hothers]
      simp [names?_text, hm]

end Reading

/-! ### Roles of data -/

/-- A type name is read from its name and from nothing else. -/
theorem TypeName.ofName?_eq_some_iff {name : String} {t : TypeName} :
    ofName? name = some t ↔ name = t.name := by
  refine ⟨fun h => ?_, ?_⟩
  · unfold ofName? at h
    have hname := List.find?_some h
    exact (eq_of_beq hname).symm
  · rintro rfl
    cases t <;> rfl

/-- The ways to spell a type name. -/
theorem Reading.typeName?_cases {d : Document} {t : TypeName} (h : typeName? d = some t) :
    d = .text t.name ∨ d = .table [(.text t.name, .null)] ∨ ∃ n, d = .table [(.int n, .null)] := by
  unfold typeName? at h
  split at h
  · left
    rw [TypeName.ofName?_eq_some_iff.1 h]
  · right
    left
    rw [TypeName.ofName?_eq_some_iff.1 h]
  · right
    right
    exact ⟨_, rfl⟩
  · cases h

namespace Json

variable {j : Json}

/-- The document `null` is that of no other data. -/
theorem eq_null_of_toDocument (h : j.toDocument = .null) : j = .null := by
  cases j with
  | null => rfl
  | number n => cases n <;> cases h
  | _ => cases h

/-- The data that are a text are the strings. -/
theorem text?_toDocument_iff {start : String} :
    j.toDocument.text? = some start ↔ j = .string start := by
  cases j with
  | number n => cases n <;> simp [toDocument, Document.text?]
  | _ => simp [toDocument, Document.text?]

/-- The document of an object with one key and nothing behind it is that of no other data. -/
theorem eq_object_of_toDocument {key : String}
    (h : j.toDocument = .table [(.text key, .null)]) : j = .object [(key, .null)] := by
  cases j with
  | object members =>
    have hentries := Document.table.inj h
    rw [toEntries_eq_map, List.map_eq_singleton_iff] at hentries
    obtain ⟨⟨key', payload⟩, rfl, hentry⟩ := hentries
    simp only [Prod.mk.injEq, Document.text.injEq] at hentry
    obtain ⟨rfl, hpayload⟩ := hentry
    cases eq_null_of_toDocument hpayload
    rfl
  | number n => cases n <;> cases h
  | _ => cases h

/-- The data that spell a type name are its name and the object that has it for its only key. -/
theorem typeName?_toDocument_iff {t : TypeName} :
    Reading.typeName? j.toDocument = some t ↔ t.SpelledBy j := by
  refine ⟨fun h => ?_, fun h => ?_⟩
  · rcases Reading.typeName?_cases h with htext | hkey | ⟨n, hnumber⟩
    · have hj : j = .string t.name := text?_toDocument_iff.1 (by rw [htext, Document.text?])
      rw [hj]
      exact .text
    · rw [eq_object_of_toDocument hkey]
      exact .key
    · -- JSON data have no numbers for keys
      cases j with
      | object members =>
        have hentries := Document.table.inj hnumber
        rw [toEntries_eq_map, List.map_eq_singleton_iff] at hentries
        obtain ⟨m, -, hentry⟩ := hentries
        cases (Prod.mk.inj hentry).1
      | number n => cases n <;> cases hnumber
      | _ => cases hnumber
  · cases h with
    | text => exact TypeName.ofName?_eq_some_iff.2 rfl
    | key => exact TypeName.ofName?_eq_some_iff.2 rfl

/-- The data that are a list of data are the arrays. -/
theorem items?_toDocument_iff (hj : j.WellFormed) {js : List Json} :
    (Reading.of j.toDocument).items? = some js ↔ j = .array js := by
  cases j with
  | array items =>
    have hitems : (items.map toDocument).mapM Document.toJson? = some items :=
      mapM_map_of_forall fun i hi => toJson?_toDocument (wellFormedEach_iff.1 hj i hi)
    rw [toDocument, toDocuments_eq_map, Reading.items?_of_list, hitems]
    simp
  | number n => cases n <;> simp [toDocument, Reading.items?, Reading.document_of]
  | _ => simp [toDocument, Reading.items?, Reading.document_of]

/-! ### Declarations -/

/-- Reading the data finds the declaration that they are by the grammar, if they are one. -/
structure ReadsByGrammar (j : Json) : Prop where
  declares : ∀ s, ofDocument? j.toDocument = some s ↔ j.Declares s
  isDeclaration : (ofDocument? j.toDocument).isSome = true ↔ j.IsDeclaration

/-- As a payload, the data are to each form what they are to it by the grammar. -/
structure ReadsAsPayload (j : Json) : Prop where
  carries : ∀ form s, (Reading.of j.toDocument).read? form = some s ↔ Carries form j s
  isPayload : ∀ form, ((Reading.of j.toDocument).read? form).isSome = true ↔ IsPayload form j

/-- Only objects are declarations. -/
theorem readsByGrammar_of_forall_ne (h : ∀ members, j ≠ .object members) : j.ReadsByGrammar := by
  have hnone : ofDocument? j.toDocument = none := by
    cases j with
    | object members => exact absurd rfl (h members)
    | number n => cases n <;> rfl
    | _ => rfl
  refine ⟨fun s => ?_, ?_⟩
  · rw [hnone]
    refine ⟨?_, ?_⟩
    · nofun
    · rintro ⟨⟩
      exact absurd rfl (h _)
  · rw [hnone]
    refine ⟨?_, ?_⟩
    · nofun
    · rintro ⟨⟩
      exact absurd rfl (h _)

/-- An object is read by looking up the forms in order. -/
theorem ofDocument?_object {members : List (String × Json)} (hd : OrderedMap.Distinct members) :
    ofDocument? (object members).toDocument
      = Form.all.findSome? fun form => (OrderedMap.get? members form.name).bind
          fun payload => (Reading.of payload.toDocument).read? form := by
  rw [ofDocument?, toDocument, toEntries_eq_map, Reading.spec?_of_table, List.map_map,
    Reading.select?_eq_findSome?]
  refine congrArg (List.findSome? · Form.all) (funext fun form => ?_)
  -- each form looks under its own name only
  have hsole : Reading.sole? form.name (members.map
        ((fun e => (e.1, Reading.of e.2)) ∘ fun m => (Document.text m.1, m.2.toDocument)))
      = (OrderedMap.get? members form.name).map fun j => Reading.of j.toDocument :=
    Reading.sole?_of_distinct hd form.name fun j => Reading.of j.toDocument
  rw [hsole, Option.bind_map]
  rfl

/-- **An object is read as the grammar has it** if its payloads are. -/
theorem readsByGrammar_object {members : List (String × Json)} (hd : OrderedMap.Distinct members)
    (h : ∀ m ∈ members, m.2.ReadsAsPayload) : (object members).ReadsByGrammar := by
  have hfound : ∀ key payload, OrderedMap.get? members key = some payload →
      payload.ReadsAsPayload := by
    intro key payload hpayload
    exact h (key, payload) ((OrderedMap.get?_eq_some_iff_mem hd).1 hpayload)
  refine ⟨fun s => ?_, ?_⟩
  · rw [ofDocument?_object hd, List.findSome?_eq_some_iff]
    -- the search ends at a form, with nothing found before it
    refine ⟨?_, fun hdeclares => ?_⟩
    · rintro ⟨before, form, after, hforms, hread, hbefore⟩
      obtain ⟨payload, hpayload, hread⟩ := Option.bind_eq_some_iff.1 hread
      refine .object hpayload (((hfound _ _ hpayload).carries form s).1 hread) hforms ?_
      intro earlier hearlier j hj hacceptable
      -- an acceptable payload would have ended the search before
      have hnone := hbefore earlier hearlier
      rw [hj, Option.bind_some] at hnone
      have hsome := ((hfound _ _ hj).isPayload earlier).2 hacceptable
      rw [hnone] at hsome
      cases hsome
    · cases hdeclares with
      | @object _ before after form payload _ hpayload hcarries hforms hfirst =>
        refine ⟨before, form, after, hforms, ?_, fun earlier hearlier => ?_⟩
        · rw [hpayload, Option.bind_some]
          exact ((hfound _ _ hpayload).carries form s).2 hcarries
        · cases hj : OrderedMap.get? members earlier.name with
          | none => rfl
          | some j =>
            -- an unacceptable payload is passed over
            rw [Option.bind_some, ← Option.not_isSome_iff_eq_none]
            intro hsome
            exact hfirst earlier hearlier j hj (((hfound _ _ hj).isPayload earlier).1 hsome)
  · rw [ofDocument?_object hd, List.findSome?_isSome_iff]
    refine ⟨?_, fun hdeclaration => ?_⟩
    · rintro ⟨form, -, hsome⟩
      obtain ⟨s, hs⟩ := Option.isSome_iff_exists.1 hsome
      obtain ⟨payload, hpayload, hread⟩ := Option.bind_eq_some_iff.1 hs
      refine .object hpayload (((hfound _ _ hpayload).isPayload form).1 ?_)
      rw [hread, Option.isSome_some]
    · cases hdeclaration with
      | @object _ form payload hpayload hacceptable =>
        refine ⟨form, form.mem_all, ?_⟩
        rw [hpayload, Option.bind_some]
        exact ((hfound _ _ hpayload).isPayload form).2 hacceptable

/-! ### Payloads -/

/-- A list is read as declarations item by item. -/
theorem mapM_ofDocument?_iff {js : List Json} (h : ∀ j ∈ js, j.ReadsByGrammar)
    {ss : List PatternSpec} :
    (js.map toDocument).mapM ofDocument? = some ss ↔ DeclaresEach js ss := by
  induction js generalizing ss with
  | nil =>
    refine ⟨?_, ?_⟩
    · rintro ⟨⟩
      exact .nil
    · rintro ⟨⟩
      rfl
  | cons j js ih =>
    obtain ⟨hj, hjs⟩ := List.forall_mem_cons.1 h
    rw [List.map_cons, List.mapM_cons]
    refine ⟨fun hread => ?_, fun hdeclares => ?_⟩
    · obtain ⟨s, hs, hread⟩ := Option.bind_eq_some_iff.1 hread
      obtain ⟨ss', hss', hread⟩ := Option.bind_eq_some_iff.1 hread
      cases hread
      exact .cons ((hj.declares s).1 hs) ((ih hjs).1 hss')
    · cases hdeclares with
      | cons hs hss =>
        rw [(hj.declares _).2 hs, (ih hjs).2 hss]
        rfl

/-- A table is read as a template member by member. -/
theorem mapM_field?_iff {members : List (String × Json)} (h : ∀ m ∈ members, m.2.ReadsByGrammar)
    {fs : List (String × PatternSpec)} :
    (members.map fun m => (Document.text m.1, m.2.toDocument)).mapM field? = some fs ↔
      DeclaresMembers members fs := by
  induction members generalizing fs with
  | nil =>
    refine ⟨?_, ?_⟩
    · rintro ⟨⟩
      exact .nil
    · rintro ⟨⟩
      rfl
  | cons m members ih =>
    obtain ⟨hm, hmembers⟩ := List.forall_mem_cons.1 h
    rw [List.map_cons, List.mapM_cons]
    refine ⟨fun hread => ?_, fun hdeclares => ?_⟩
    · obtain ⟨f, hf, hread⟩ := Option.bind_eq_some_iff.1 hread
      obtain ⟨fs', hfs', hread⟩ := Option.bind_eq_some_iff.1 hread
      cases hread
      -- a text is a key as it is
      obtain ⟨hspec, hkey⟩ := PatternSpec.field?_eq_some_iff.1 hf
      obtain ⟨key, j⟩ := m
      obtain ⟨key', s⟩ := f
      cases hkey
      exact .cons ((hm.declares s).1 hspec) ((ih hmembers).1 hfs')
    · cases hdeclares with
      | @cons key j s _ fs hs hfs =>
        have hfield : field? (.text key, j.toDocument) = some (key, s) :=
          PatternSpec.field?_eq_some_iff.2 ⟨(hm.declares s).2 hs, rfl⟩
        rw [hfield, (ih hmembers).2 hfs]
        rfl

/-- A template has the keys of the object that it is read from. -/
theorem DeclaresMembers.keys_eq {members : List (String × Json)} {fs : List (String × PatternSpec)}
    (h : DeclaresMembers members fs) : OrderedMap.keys fs = OrderedMap.keys members := by
  induction members generalizing fs with
  | nil =>
    cases h
    rfl
  | cons m members ih =>
    cases h with
    | cons hs hfs => exact congrArg (List.cons _) (ih hfs)

section Roles

variable (hitems : ∀ js, j = .array js → ∀ i ∈ js, i.ReadsByGrammar)
  (hmembers : ∀ ms, j = .object ms → ∀ m ∈ ms, m.2.ReadsByGrammar)

include hitems in
/-- The data that are a list of declarations are the arrays of such. -/
theorem specs?_toDocument_iff {ss : List PatternSpec} :
    (Reading.of j.toDocument).specs? = some ss ↔ ∃ js, j = .array js ∧ DeclaresEach js ss := by
  cases j with
  | array js =>
    rw [toDocument, toDocuments_eq_map, Reading.specs?_of_list,
      mapM_ofDocument?_iff (hitems js rfl)]
    refine ⟨?_, ?_⟩
    · exact fun h => ⟨js, rfl, h⟩
    · rintro ⟨_, ⟨⟩, h⟩
      exact h
  | number n => cases n <;> simp [toDocument, Reading.of]
  | _ => simp [toDocument, Reading.of]

include hitems in
/-- The same for the question whether there is one. -/
theorem isSome_specs?_toDocument_iff :
    (Reading.of j.toDocument).specs?.isSome = true ↔
      ∃ js, j = .array js ∧ ∀ i ∈ js, i.IsDeclaration := by
  cases j with
  | array js =>
    have heach : ∀ i ∈ js, ((ofDocument? i.toDocument).isSome = true ↔ i.IsDeclaration) :=
      fun i hi => (hitems js rfl i hi).isDeclaration
    rw [toDocument, toDocuments_eq_map, Reading.specs?_of_list, isSome_mapM_iff,
      List.forall_mem_map]
    refine ⟨?_, ?_⟩
    · exact fun h => ⟨js, rfl, fun i hi => (heach i hi).1 (h i hi)⟩
    · rintro ⟨_, ⟨⟩, h⟩
      exact fun i hi => (heach i hi).2 (h i hi)
  | number n => cases n <;> simp [toDocument, Reading.of]
  | _ => simp [toDocument, Reading.of]

include hmembers in
/-- The data that are a template are the objects whose members are declarations. -/
theorem fields?_toDocument_iff (hj : j.WellFormed) {fs : List (String × PatternSpec)} :
    (Reading.of j.toDocument).fields? = some fs ↔ ∃ ms, j = .object ms ∧ DeclaresMembers ms fs := by
  cases j with
  | object ms =>
    -- the fields are inserted in turn, which changes nothing: the keys of the object are distinct
    have hsettled : ∀ fs', DeclaresMembers ms fs' → OrderedMap.ofList fs' = fs' := by
      intro fs' h
      refine OrderedMap.ofList_of_distinct ?_
      rw [OrderedMap.Distinct, h.keys_eq]
      exact hj.1
    rw [toDocument, toEntries_eq_map, Reading.fields?_of_table, Option.map_eq_some_iff]
    simp only [mapM_field?_iff (hmembers ms rfl)]
    refine ⟨?_, ?_⟩
    · rintro ⟨fs', h, rfl⟩
      rw [hsettled fs' h]
      exact ⟨ms, rfl, h⟩
    · rintro ⟨_, ⟨⟩, h⟩
      exact ⟨fs, h, hsettled fs h⟩
  | number n => cases n <;> simp [toDocument, Reading.of]
  | _ => simp [toDocument, Reading.of]

include hmembers in
/-- The same for the question whether there is one. -/
theorem isSome_fields?_toDocument_iff :
    (Reading.of j.toDocument).fields?.isSome = true ↔
      ∃ ms, j = .object ms ∧ ∀ m ∈ ms, m.2.IsDeclaration := by
  cases j with
  | object ms =>
    have heach : ∀ m ∈ ms, ((field? (.text m.1, m.2.toDocument)).isSome = true ↔
        m.2.IsDeclaration) := by
      intro m hm
      rw [← (hmembers ms rfl m hm).isDeclaration]
      cases hspec : ofDocument? m.2.toDocument <;> simp [field?, Document.text?, hspec]
    rw [toDocument, toEntries_eq_map, Reading.fields?_of_table, Option.isSome_map, isSome_mapM_iff,
      List.forall_mem_map]
    refine ⟨?_, ?_⟩
    · exact fun h => ⟨ms, rfl, fun m hm => (heach m hm).1 (h m hm)⟩
    · rintro ⟨_, ⟨⟩, h⟩
      exact fun m hm => (heach m hm).2 (h m hm)
  | number n => cases n <;> simp [toDocument, Reading.of]
  | _ => simp [toDocument, Reading.of]

include hitems hmembers in
/-- What a payload says to each form; the three that take a list of declarations are alike. -/
theorem ReadsByGrammar.carries (hj : j.WellFormed) (h : j.ReadsByGrammar) (form : Form)
    (s : PatternSpec) : (Reading.of j.toDocument).read? form = some s ↔ Carries form j s := by
  cases form with
  | equals =>
    -- any data will do, and are taken as they are
    rw [Reading.read?, Reading.document_of, toJson?_toDocument hj]
    refine ⟨?_, ?_⟩
    · rintro ⟨⟩
      exact .equals j
    · rintro ⟨⟩
      rfl
  | is =>
    rw [Reading.read?, Option.map_eq_some_iff]
    simp only [items?_toDocument_iff hj]
    refine ⟨?_, ?_⟩
    · rintro ⟨js, rfl, rfl⟩
      exact .is js
    · rintro ⟨⟩
      exact ⟨_, rfl, rfl⟩
  | not =>
    -- the payload is a declaration itself
    rw [Reading.read?, Option.map_eq_some_iff]
    refine ⟨?_, fun hcarries => ?_⟩
    · rintro ⟨s, hs, rfl⟩
      exact .not ((h.declares s).1 hs)
    · cases hcarries with
      | @not _ s hs => exact ⟨s, (h.declares s).2 hs, rfl⟩
  | type =>
    rw [Reading.read?, Option.map_eq_some_iff, Reading.document_of]
    simp only [typeName?_toDocument_iff]
    refine ⟨?_, fun hcarries => ?_⟩
    · rintro ⟨t, ht, rfl⟩
      exact .type ht
    · cases hcarries with
      | @type t _ ht => exact ⟨t, ht, rfl⟩
  | startsWith =>
    rw [Reading.read?, Option.map_eq_some_iff, Reading.document_of]
    simp only [text?_toDocument_iff]
    refine ⟨?_, ?_⟩
    · rintro ⟨start, rfl, rfl⟩
      exact .startsWith start
    · rintro ⟨⟩
      exact ⟨_, rfl, rfl⟩
  | fields =>
    rw [Reading.read?, Option.map_eq_some_iff]
    simp only [fields?_toDocument_iff hmembers hj]
    refine ⟨?_, fun hcarries => ?_⟩
    · rintro ⟨fs, ⟨ms, rfl, hfs⟩, rfl⟩
      exact .fields hfs
    · cases hcarries with
      | @fields ms fs hfs => exact ⟨fs, ⟨ms, rfl, hfs⟩, rfl⟩
  | elements | allOf | anyOf =>
    rw [Reading.read?, Option.map_eq_some_iff]
    simp only [specs?_toDocument_iff hitems]
    refine ⟨?_, fun hcarries => ?_⟩
    · rintro ⟨ss, ⟨js, rfl, hss⟩, rfl⟩
      constructor
      exact hss
    · cases hcarries
      next hss => exact ⟨_, ⟨_, rfl, hss⟩, rfl⟩

include hitems hmembers in
/-- Which forms a payload is acceptable to. -/
theorem ReadsByGrammar.isPayload (hj : j.WellFormed) (h : j.ReadsByGrammar) (form : Form) :
    ((Reading.of j.toDocument).read? form).isSome = true ↔ IsPayload form j := by
  cases form with
  | equals =>
    rw [Reading.read?, Option.isSome_map, Reading.document_of, toJson?_toDocument hj]
    exact ⟨fun _ => .equals j, fun _ => rfl⟩
  | is =>
    rw [Reading.read?, Option.isSome_map, Option.isSome_iff_exists]
    simp only [items?_toDocument_iff hj]
    refine ⟨?_, ?_⟩
    · rintro ⟨js, rfl⟩
      exact .is js
    · rintro ⟨⟩
      exact ⟨_, rfl⟩
  | not =>
    rw [Reading.read?, Option.isSome_map]
    refine h.isDeclaration.trans ⟨.not, fun hpayload => ?_⟩
    cases hpayload with
    | not hdeclaration => exact hdeclaration
  | type =>
    rw [Reading.read?, Option.isSome_map, Option.isSome_iff_exists, Reading.document_of]
    simp only [typeName?_toDocument_iff]
    refine ⟨?_, fun hpayload => ?_⟩
    · rintro ⟨t, ht⟩
      exact .type ht
    · cases hpayload with
      | @type t _ ht => exact ⟨t, ht⟩
  | startsWith =>
    rw [Reading.read?, Option.isSome_map, Option.isSome_iff_exists, Reading.document_of]
    simp only [text?_toDocument_iff]
    refine ⟨?_, ?_⟩
    · rintro ⟨start, rfl⟩
      exact .startsWith start
    · rintro ⟨⟩
      exact ⟨_, rfl⟩
  | fields =>
    rw [Reading.read?, Option.isSome_map, isSome_fields?_toDocument_iff hmembers]
    refine ⟨?_, fun hpayload => ?_⟩
    · rintro ⟨ms, rfl, hms⟩
      exact .fields hms
    · cases hpayload with
      | @fields ms hms => exact ⟨ms, rfl, hms⟩
  | elements | allOf | anyOf =>
    rw [Reading.read?, Option.isSome_map, isSome_specs?_toDocument_iff hitems]
    refine ⟨?_, fun hpayload => ?_⟩
    · rintro ⟨js, rfl, hjs⟩
      constructor
      exact hjs
    · cases hpayload
      next hjs => exact ⟨_, rfl, hjs⟩

include hitems hmembers in
/-- **Data are read as a payload as the grammar has it**, if they are read so as a declaration and
the data inside them are. -/
theorem ReadsByGrammar.payload (hj : j.WellFormed) (h : j.ReadsByGrammar) : j.ReadsAsPayload :=
  ⟨h.carries hitems hmembers hj, h.isPayload hitems hmembers hj⟩

end Roles

/-! ### All data -/

/-- Data are read as the grammar has it, at every depth and in both roles. The induction is on the
data: what stands in an object is read as a payload before the object is read as a declaration. -/
theorem WellFormed.readsByGrammar {j : Json} (hj : j.WellFormed) :
    j.ReadsByGrammar ∧ j.ReadsAsPayload := by
  induction j with
  | null | bool | number | string =>
    refine ⟨?_, ReadsByGrammar.payload nofun nofun hj ?_⟩
    all_goals exact readsByGrammar_of_forall_ne nofun
  | array js ih =>
    have h : (array js).ReadsByGrammar := readsByGrammar_of_forall_ne nofun
    refine ⟨h, h.payload ?_ nofun hj⟩
    -- the items are read as declarations only
    rintro _ ⟨⟩ i hi
    exact (ih i hi (wellFormedEach_iff.1 hj i hi)).1
  | object members ih =>
    have hmembers := wellFormedMembers_iff.1 hj.2
    -- read as payloads the members make the object a declaration, and read as declarations they
    -- make it a template
    have h := readsByGrammar_object hj.1 fun m hm => (ih m hm (hmembers m hm)).2
    refine ⟨h, h.payload nofun ?_ hj⟩
    rintro _ ⟨⟩ m hm
    exact (ih m hm (hmembers m hm)).1

end Json

namespace PatternSpec

/-- **Reading accepts exactly the grammar.** Well-formed data are read as a declaration exactly if
they are an object with an acceptable payload under the key of some form, and the result is what the
first such form in the fixed order makes of its payload. Where the keys stand, and what stands under
any other key, makes no difference. -/
theorem read_exactly_by_grammar :
    (∀ j : Json, j.WellFormed → ((ofDocument? j.toDocument).isSome = true ↔ j.IsDeclaration)) ∧
    (∀ (j : Json) (s : PatternSpec), j.WellFormed →
      (ofDocument? j.toDocument = some s ↔ j.Declares s)) ∧
    ∀ ms ns : List (String × Json), OrderedMap.Distinct ms → OrderedMap.Distinct ns →
      (∀ form : Form, OrderedMap.get? ms form.name = OrderedMap.get? ns form.name) →
        ofDocument? (Json.object ms).toDocument = ofDocument? (Json.object ns).toDocument := by
  refine ⟨fun j hj => hj.readsByGrammar.1.isDeclaration,
    fun j s hj => hj.readsByGrammar.1.declares s, fun ms ns hms hns hsame => ?_⟩
  rw [Json.ofDocument?_object hms, Json.ofDocument?_object hns]
  simp only [hsame]

/-- An object with three keys of forms and one of none: under the first form in order stands
something that is no list, and the second one, which stands behind the third, is what is meant. The
payload under the key of the third is acceptable too. -/
theorem read_exactly_by_grammar_past_bad_payload :
    let j : Json := .object [("startsWith", .string "a"), ("note", .null),
      ("type", .object [("bigint", .null)]), ("is", .string "a")]
    j.IsDeclaration ∧ j.Declares (.type .bigint) ∧
      ofDocument? (Json.object [("type", .object [("bigint", .null)]), ("is", .string "a"),
        ("startsWith", .string "a")]).toDocument = some (.type .bigint) := by
  intro j
  have hj : j.WellFormed :=
    ⟨by decide, trivial, trivial, ⟨by decide, trivial, trivial⟩, trivial, trivial⟩
  obtain ⟨haccepted, hread, hkeys⟩ := read_exactly_by_grammar
  refine ⟨(haccepted j hj).1 rfl, (hread j (.type .bigint) hj).1 rfl, ?_⟩
  refine (hkeys _ _ (by decide) (by decide) fun form => ?_).trans ((hread j _ hj).2 ?_)
  · cases form <;> rfl
  · exact (hread j (.type .bigint) hj).1 rfl

end PatternSpec

end Casewise
