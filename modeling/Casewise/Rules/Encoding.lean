import Casewise.Rules
import Casewise.Spec.Encoding

/-!
# Rule sets and options as documents

Options, rules and rule sets are written as tables with fixed entries. Reading ignores other
entries, refuses a repeated one, and fills in what may be missing; in place of a table a list gives
the entries in order, missing ones at its end.

* `MatchOptions.toJson`, `RuleSet.toJson` — the written forms; a missing fallback is left out.
* `MatchOptions.ofDocument?`, `RuleSet.ofDocument?` — what a document spells.
-/

namespace Casewise

namespace Document

/-- A table whose keys are all strings, with those strings as keys. -/
def textEntries? (entries : List (Document × Document)) : Option (List (String × Document)) :=
  entries.mapM fun e => e.1.text?.map fun key => (key, e.2)

/-- The entries of a structure with the fields `names`, each present or not: a table by name, a
list by position. -/
def fields? (names : List String) : Document → Option (List (Option Document))
  | .table es => do
    let entries ← textEntries? es
    names.mapM fun name => entryUnder? name entries
  | .list ds =>
    if ds.length ≤ names.length then
      some (ds.map some ++ List.replicate (names.length - ds.length) none)
    else none
  | _ => none

end Document

namespace MissingFields

/-- A name, or a table with the name as only key and `null` behind it. -/
def ofDocument? : Document → Option MissingFields
  | .text s => ofName? s
  | .table [(.text s, .null)] => ofName? s
  | _ => none

end MissingFields

namespace MatchOptions

def toJson (o : MatchOptions) : Json :=
  .object [("tagField", .string o.tagField), ("missingFields", .string o.missingFields.name)]

/-- Both entries may be missing. -/
def ofDocument? (d : Document) : Option MatchOptions := do
  match ← d.fields? ["tagField", "missingFields"] with
  | [tagField, missingFields] =>
    let defaults : MatchOptions := {}
    let tagField ← tagField.elim (some defaults.tagField) Document.text?
    let missingFields ← missingFields.elim (some defaults.missingFields) MissingFields.ofDocument?
    return { tagField, missingFields }
  | _ => none

end MatchOptions

namespace Rule

def toJson (r : Rule) : Json := .object [("when", r.condition.toJson), ("then", r.result)]

/-- Both entries are needed. -/
def ofDocument? (d : Document) : Option Rule := do
  match ← d.fields? ["when", "then"] with
  | [some condition, some result] =>
    return { condition := ← PatternSpec.ofDocument? condition, result := ← result.toJson? }
  | _ => none

end Rule

namespace RuleSet

/-- A missing fallback is left out. -/
def toJson (r : RuleSet) : Json :=
  .object ([("options", r.options.toJson), ("rules", .array (r.rules.map Rule.toJson))] ++
    (r.otherwise.map fun j => ("otherwise", j)).toList)

/-- The rules of a list. -/
def rulesOfDocument? : Document → Option (List Rule)
  | .list ds => ds.mapM Rule.ofDocument?
  | _ => none

/-- A fallback; `null` is none. -/
def otherwiseOfDocument? : Document → Option (Option Json)
  | .null => some none
  | d => d.toJson?.map some

/-- All three entries may be missing. -/
def ofDocument? (d : Document) : Option RuleSet := do
  match ← d.fields? ["options", "rules", "otherwise"] with
  | [options, rules, otherwise] =>
    let options ← options.elim (some {}) MatchOptions.ofDocument?
    let rules ← rules.elim (some []) rulesOfDocument?
    let otherwise ← otherwise.elim (some none) otherwiseOfDocument?
    return { options, rules, otherwise }
  | _ => none

end RuleSet

end Casewise
