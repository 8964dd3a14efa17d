import Casewise.Proofs.SpecRoundTrip
import Casewise.Rules.Json

/-!
# Rule sets saved and loaded

A rule set that is saved and loaded again comes back as it was, with one exception: a fallback of
`null` is saved like any other, but an entry that is `null` is loaded like a missing one.
`RuleSet.settled` says what comes back.

No rule set with that fallback is ever loaded, so the exception does not concern rule sets that were
loaded themselves. The argument has two halves: what is loaded is well formed whatever the document
is like, and a fallback that is loaded from a finite document is the data of an entry other than
`null`, hence not `null`. Without finiteness the second half is false, since the data of an infinity
are `null`; but JSON data are finite, and so is what a JSON text spells.

* `RuleSet.ofDocument?_toJson` — what a saved rule set is loaded as.
* `RuleSet.wellFormed_of_ofDocument?`, `RuleSet.otherwise_ne_null_of_ofDocument?` — what is loaded.
* `RuleSet.save_load_round_trips` — saving and loading, of declarations and of rule sets.
-/

namespace Casewise

/-! ### Options and rules -/

/-- Written options are well-formed JSON data. -/
theorem MatchOptions.wellFormed_toJson (o : MatchOptions) : o.toJson.WellFormed := by
  refine ⟨?_, trivial, trivial, trivial⟩
  simp [OrderedMap.Distinct, OrderedMap.keys]

/-- Options are read back as they were. -/
theorem MatchOptions.ofDocument?_toJson (o : MatchOptions) :
    ofDocument? o.toJson.toDocument = some o := by
  obtain ⟨tagField, missingFields⟩ := o
  cases missingFields <;> rfl

/-- The entries of a structure in a written object, by name. -/
theorem Document.fields?_toDocument (names : List String) (ms : List (String × Json)) :
    (Json.object ms).toDocument.fields? names =
      names.mapM fun name => entryUnder? name (ms.map fun m => (m.1, m.2.toDocument)) := by
  -- all keys are texts, so none of them is refused
  have hkeys : textEntries? (Json.toEntries ms) = some (ms.map fun m => (m.1, m.2.toDocument)) := by
    induction ms with
    | nil => rfl
    | cons m ms ih =>
      rw [Json.toEntries, textEntries?, List.mapM_cons, ← textEntries?, ih]
      rfl
  rw [Json.toDocument, fields?, hkeys]
  rfl

/-- A written rule is well-formed JSON data. -/
theorem Rule.wellFormed_toJson {r : Rule} (h : r.WellFormed) : r.toJson.WellFormed := by
  have hkeys : OrderedMap.Distinct [("when", r.condition.toJson), ("then", r.result)] := by
    simp [OrderedMap.Distinct, OrderedMap.keys]
  exact ⟨hkeys, PatternSpec.wellFormed_toJson h.1, h.2, trivial⟩

/-- A rule is read back as it was. -/
theorem Rule.ofDocument?_toJson {r : Rule} (h : r.WellFormed) :
    ofDocument? r.toJson.toDocument = some r := by
  obtain ⟨condition, result⟩ := r
  have hcondition : PatternSpec.ofDocument? condition.toJson.toDocument = some condition :=
    PatternSpec.ofDocument?_toJson h.1
  have hresult : result.toDocument.toJson? = some result := Json.toJson?_toDocument h.2
  have hfields : (Rule.toJson ⟨condition, result⟩).toDocument.fields? ["when", "then"] =
      some [some condition.toJson.toDocument, some result.toDocument] :=
    Document.fields?_toDocument _ _
  rw [ofDocument?, hfields]
  simp [hcondition, hresult]

/-! ### Saved rule sets -/

namespace RuleSet

/-- A saved rule set is well-formed JSON data. -/
theorem wellFormed_toJson {r : RuleSet} (h : r.WellFormed) : r.toJson.WellFormed := by
  have hrules : (Json.array (r.rules.map Rule.toJson)).WellFormed :=
    Json.wellFormedEach_iff.2 (List.forall_mem_map.2 fun rule hrule =>
      Rule.wellFormed_toJson (h.rules rule hrule))
  rw [toJson]
  cases hr : r.otherwise with
  -- without a fallback there is no member for it
  | none =>
    refine ⟨?_, r.options.wellFormed_toJson, hrules, trivial⟩
    simp [OrderedMap.Distinct, OrderedMap.keys]
  | some j =>
    refine ⟨?_, r.options.wellFormed_toJson, hrules, h.otherwise j hr, trivial⟩
    simp [OrderedMap.Distinct, OrderedMap.keys]

/-- A fallback as it is read back: `null` is none. -/
def settled? : Json → Option Json
  | .null => none
  | j => some j

/-- The rule set with a fallback of `null` taken for none. -/
def settled (r : RuleSet) : RuleSet := { r with otherwise := r.otherwise.bind settled? }

/-- Only a fallback of `null` gets lost. -/
theorem settled_eq_self_iff {r : RuleSet} : r.settled = r ↔ r.otherwise ≠ some .null := by
  obtain ⟨options, rules, otherwise⟩ := r
  cases otherwise with
  | none => simp [settled]
  | some j => cases j <;> simp [settled, settled?]

/-- A list of rules is read back as it was. -/
theorem rulesOfDocument?_toDocument {rules : List Rule} (h : ∀ rule ∈ rules, rule.WellFormed) :
    rulesOfDocument? (Json.array (rules.map Rule.toJson)).toDocument = some rules := by
  rw [Json.toDocument, Json.toDocuments_eq_map, List.map_map]
  exact mapM_map_of_forall fun rule hrule => Rule.ofDocument?_toJson (h rule hrule)

/-- A fallback is read back as it was, unless it is `null`. -/
theorem otherwiseOfDocument?_toDocument {j : Json} (h : j.WellFormed) :
    otherwiseOfDocument? j.toDocument = some (settled? j) := by
  have hread : j.toDocument.toJson? = some j := Json.toJson?_toDocument h
  cases j with
  | null => rfl
  | number n => cases n <;> exact congrArg (Option.map some) hread
  | bool | string | array | object => exact congrArg (Option.map some) hread

/-- A written rule set is read back, but a fallback of `null` is lost. -/
theorem ofDocument?_toJson {r : RuleSet} (h : r.WellFormed) :
    ofDocument? r.toJson.toDocument = some r.settled := by
  obtain ⟨options, rules, otherwise⟩ := r
  have hoptions : MatchOptions.ofDocument? options.toJson.toDocument = some options :=
    MatchOptions.ofDocument?_toJson options
  have hrules : rulesOfDocument? (Json.array (rules.map Rule.toJson)).toDocument = some rules :=
    rulesOfDocument?_toDocument h.rules
  have hfields : (toJson ⟨options, rules, otherwise⟩).toDocument.fields?
      ["options", "rules", "otherwise"] =
      some [some options.toJson.toDocument, some (Json.array (rules.map Rule.toJson)).toDocument,
        otherwise.map Json.toDocument] := by
    -- a fallback that is left out is a missing entry
    rw [toJson, Document.fields?_toDocument]
    cases otherwise <;> rfl
  rw [ofDocument?, hfields]
  cases otherwise with
  | none => simp [hoptions, hrules, settled]
  | some j =>
    have hotherwise : otherwiseOfDocument? j.toDocument = some (settled? j) :=
      otherwiseOfDocument?_toDocument (h.otherwise j rfl)
    simp [hoptions, hrules, hotherwise, settled]

end RuleSet

/-! ### Loaded rule sets -/

/-- The entry under a name is an entry. -/
theorem exists_mem_of_entryUnder? {α : Type} {name : String} {entries : List (String × α)} {a : α}
    (h : entryUnder? name entries = some (some a)) : ∃ e ∈ entries, e.2 = a := by
  rw [entryUnder?] at h
  split at h
  · cases h
  · next e he =>
    cases h
    have hmem : e ∈ entries.filter fun e => e.1 == name := by simp [he]
    exact ⟨e, (List.mem_filter.1 hmem).1, rfl⟩
  · cases h

/-- The entries of a structure in a finite document are finite. -/
theorem Document.Finite.of_fields? {d : Document} (hd : d.Finite) {names : List String}
    {parts : List (Option Document)} (h : d.fields? names = some parts) {part : Document}
    (hpart : some part ∈ parts) : part.Finite := by
  cases d with
  -- entries are looked up by name, items taken by position
  | table es =>
    obtain ⟨entries, hentries, h⟩ := Option.bind_eq_some_iff.1 h
    obtain ⟨name, -, hname⟩ := exists_of_mem_mapM h hpart
    obtain ⟨e, he, rfl⟩ := exists_mem_of_entryUnder? hname
    obtain ⟨e', he', hkey⟩ := exists_of_mem_mapM hentries he
    obtain ⟨key, -, rfl⟩ := Option.map_eq_some_iff.1 hkey
    exact (finiteEntries_iff.1 hd e' he').2
  | list ds =>
    rw [fields?] at h
    split at h
    · cases h
      have hmem : part ∈ ds := by simpa using hpart
      exact finiteEach_iff.1 hd part hmem
    · cases h
  | _ => cases h

/-- A rule that has been read is well formed. -/
theorem Rule.wellFormed_of_ofDocument? {d : Document} {r : Rule} (h : ofDocument? d = some r) :
    r.WellFormed := by
  obtain ⟨parts, -, h⟩ := Option.bind_eq_some_iff.1 h
  split at h
  · obtain ⟨condition, hcondition, h⟩ := Option.bind_eq_some_iff.1 h
    obtain ⟨result, hresult, h⟩ := Option.bind_eq_some_iff.1 h
    cases h
    exact ⟨PatternSpec.wellFormed_of_ofDocument? hcondition, Document.wellFormed_of_toJson? hresult⟩
  · cases h

namespace RuleSet

/-- The parts of a document that a rule set has been read from. -/
theorem exists_parts_of_ofDocument? {d : Document} {r : RuleSet} (h : ofDocument? d = some r) :
    ∃ options rules otherwise,
      d.fields? ["options", "rules", "otherwise"] = some [options, rules, otherwise] ∧
      options.elim (some {}) MatchOptions.ofDocument? = some r.options ∧
      rules.elim (some []) rulesOfDocument? = some r.rules ∧
      otherwise.elim (some none) otherwiseOfDocument? = some r.otherwise := by
  obtain ⟨parts, hparts, h⟩ := Option.bind_eq_some_iff.1 h
  split at h
  · obtain ⟨options, hoptions, h⟩ := Option.bind_eq_some_iff.1 h
    obtain ⟨rules, hrules, h⟩ := Option.bind_eq_some_iff.1 h
    obtain ⟨otherwise, hotherwise, h⟩ := Option.bind_eq_some_iff.1 h
    cases h
    exact ⟨_, _, _, hparts, hoptions, hrules, hotherwise⟩
  · cases h

/-- Rules that have been read are well formed. -/
theorem wellFormed_of_rulesOfDocument? {d : Document} {rules : List Rule}
    (h : rulesOfDocument? d = some rules) : ∀ rule ∈ rules, rule.WellFormed := by
  intro rule hrule
  cases d with
  | list ds =>
    obtain ⟨d, -, hd⟩ := exists_of_mem_mapM h hrule
    exact Rule.wellFormed_of_ofDocument? hd
  | _ => cases h

/-- A fallback that has been read is the JSON data of a document other than `null`. -/
theorem otherwiseOfDocument?_eq_some {d : Document} {j : Json}
    (h : otherwiseOfDocument? d = some (some j)) : d ≠ .null ∧ d.toJson? = some j := by
  unfold otherwiseOfDocument? at h
  -- `null` is read as no fallback
  split at h
  · cases h
  · next hd =>
    obtain ⟨j', hj, h⟩ := Option.map_eq_some_iff.1 h
    cases h
    exact ⟨hd, hj⟩

/-- A rule set that has been read is well formed, whatever it has been read from. -/
theorem wellFormed_of_ofDocument? {d : Document} {r : RuleSet} (h : ofDocument? d = some r) :
    r.WellFormed := by
  obtain ⟨options, rules, otherwise, -, -, hrules, hotherwise⟩ := exists_parts_of_ofDocument? h
  -- an entry that is missing has a default: no options, no rules, no fallback
  constructor
  · cases rules with
    | none =>
      have hnil : r.rules = [] := (Option.some.inj hrules).symm
      simp [hnil]
    | some ds => exact wellFormed_of_rulesOfDocument? hrules
  · intro j hj
    rw [hj] at hotherwise
    cases otherwise with
    | none => cases hotherwise
    | some d => exact Document.wellFormed_of_toJson? (otherwiseOfDocument?_eq_some hotherwise).2

/-- **No finite document is loaded with `null` as its fallback.** -/
theorem otherwise_ne_null_of_ofDocument? {d : Document} (hd : d.Finite) {r : RuleSet}
    (h : ofDocument? d = some r) : r.otherwise ≠ some .null := by
  intro hnull
  obtain ⟨options, rules, otherwise, hparts, -, -, hotherwise⟩ := exists_parts_of_ofDocument? h
  rw [hnull] at hotherwise
  cases otherwise with
  | none => cases hotherwise
  | some d' =>
    -- only `null` spells `null`, and an entry that is `null` is no fallback
    have hd' : d'.Finite := hd.of_fields? hparts (by simp)
    obtain ⟨hne, hread⟩ := otherwiseOfDocument?_eq_some hotherwise
    exact hne (hd'.eq_null_of_toJson? hread)

/-- **Loading what has been saved after loading gives the same again.** -/
theorem ofDocument?_toJson_of_ofDocument? {d : Document} (hd : d.Finite) {r : RuleSet}
    (h : ofDocument? d = some r) : ofDocument? r.toJson.toDocument = some r := by
  -- what has been loaded is not the exception
  have hsettled : r.settled = r := settled_eq_self_iff.2 (otherwise_ne_null_of_ofDocument? hd h)
  rw [ofDocument?_toJson (wellFormed_of_ofDocument? h), hsettled]

/-- **Saving and loading.** A declaration, however it is nested and whatever data it carries, is
saved as JSON data and loaded as it was. A rule set that is saved always loads again, and it comes
back as it was exactly if its fallback is not `null`. No JSON data and no JSON text are loaded as a
rule set with that fallback, so saving and loading again changes nothing that was loaded. -/
theorem save_load_round_trips :
    (∀ s : PatternSpec, s.WellFormed →
      s.toJson.WellFormed ∧ PatternSpec.ofDocument? s.toJson.toDocument = some s) ∧
    (∀ r : RuleSet, r.WellFormed →
      r.toJson.WellFormed ∧
        ∃ r', ofDocument? r.toJson.toDocument = some r' ∧ (r' = r ↔ r.otherwise ≠ some .null)) ∧
    (∀ (j : Json) (r : RuleSet), j.WellFormed → ofDocument? j.toDocument = some r →
      r.otherwise ≠ some .null ∧ ofDocument? r.toJson.toDocument = some r) ∧
    (∀ (text : String) (r : RuleSet), ofJsonText? text = some r →
      r.otherwise ≠ some .null ∧ ofDocument? r.toJson.toDocument = some r) := by
  have hloaded {d : Document} {r : RuleSet} (hd : d.Finite) (h : ofDocument? d = some r) :
      r.otherwise ≠ some .null ∧ ofDocument? r.toJson.toDocument = some r :=
    ⟨otherwise_ne_null_of_ofDocument? hd h, ofDocument?_toJson_of_ofDocument? hd h⟩
  -- data and texts end in the same case, since both give finite documents
  refine ⟨fun s hs => ?_, fun r hr => ?_, fun j r hj h => ?_, fun text r h => ?_⟩
  · exact ⟨PatternSpec.wellFormed_toJson hs, PatternSpec.ofDocument?_toJson hs⟩
  · exact ⟨wellFormed_toJson hr, r.settled, ofDocument?_toJson hr, settled_eq_self_iff⟩
  · exact hloaded hj.finite_toDocument h
  · obtain ⟨d, hd, h⟩ := Option.bind_eq_some_iff.1 h
    exact hloaded (Document.finite_of_ofJsonText? hd) h

/-- The data of the declaration look like another one, the fallback of the rule set is `null`, and
so is that of the JSON data and the text that are loaded. -/
theorem save_load_round_trips_with_null :
    let s : PatternSpec := .not (.equals (.object [("type", .string "string"), ("not", .null)]))
    let r : RuleSet := { rules := [⟨s, .number (.int 1)⟩], otherwise := some .null }
    let loaded : RuleSet := { rules := [⟨s, .number (.int 1)⟩] }
    s.WellFormed ∧ PatternSpec.ofDocument? s.toJson.toDocument = some s ∧
      r.WellFormed ∧ ofDocument? r.toJson.toDocument ≠ some r ∧
      r.toJson.WellFormed ∧ ofDocument? r.toJson.toDocument = some loaded ∧
      ofDocument? loaded.toJson.toDocument = some loaded ∧
      ∃ r', ofJsonText? "\x7b\"otherwise\": null\x7d" = some r' ∧ r'.otherwise ≠ some .null := by
  intro s r loaded
  obtain ⟨hspec, hrules, hjson, htext⟩ := save_load_round_trips
  have hs : s.WellFormed := ⟨by decide, trivial, trivial, trivial⟩
  have hr : r.WellFormed := by
    refine ⟨fun rule hrule => ?_, fun j hj => ?_⟩
    · obtain rfl := List.mem_singleton.1 hrule
      exact ⟨hs, trivial⟩
    · cases hj
      trivial
  have hload : ofDocument? r.toJson.toDocument = some loaded := rfl
  obtain ⟨hwf, r', hr', heq⟩ := hrules r hr
  refine ⟨hs, (hspec s hs).2, hr, fun h => ?_, hwf, hload, (hjson _ _ hwf hload).2, ?_⟩
  · rw [hr'] at h
    exact heq.1 (Option.some.inj h) rfl
  · have hread : (ofJsonText? "\x7b\"otherwise\": null\x7d").isSome = true := by decide +kernel
    obtain ⟨r', hr'⟩ := Option.isSome_iff_exists.1 hread
    exact ⟨r', hr', (htext _ _ hr').1⟩

end RuleSet

end Casewise
