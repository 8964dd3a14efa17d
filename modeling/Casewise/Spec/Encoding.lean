import Casewise.Document
import Casewise.Spec

/-!
# Declarations as documents

A declaration is written as a table with one entry, whose key names its form. Reading is more
liberal: a table may hold anything else besides, and the forms are tried in a fixed order, so that
the first one whose entry is present and acceptable wins wherever it stands.

* `PatternSpec.toJson` — the written form.
* `Reading` — the four roles that a part of a document can play in a declaration, read together.
* `PatternSpec.ofDocument?` — the declaration that a document spells.

An entry counts only if its key occurs once. Among the keys of a table numbers from zero on may
stand for the place of an entry: `0` stands for the name of the form that is tried, any other is
ignored. A key of another kind makes the table unreadable.
-/

namespace Casewise

namespace PatternSpec

mutual

/-- The written form of a declaration. -/
def toJson : PatternSpec → Json
  | .equals j => .object [("equals", j)]
  | .oneOf js => .object [("is", .array js)]
  | .not s => .object [("not", s.toJson)]
  | .type t => .object [("type", .string t.name)]
  | .startsWith start => .object [("startsWith", .string start)]
  | .fields fs => .object [("fields", .object (toJsonFields fs))]
  | .elements ss => .object [("elements", .array (toJsonEach ss))]
  | .allOf ss => .object [("allOf", .array (toJsonEach ss))]
  | .anyOf ss => .object [("anyOf", .array (toJsonEach ss))]

/-- The encodings of declarations, in their order. -/
def toJsonEach : List PatternSpec → List Json
  | [] => []
  | s :: ss => s.toJson :: toJsonEach ss

/-- The encodings of the fields of a template, under the same keys. -/
def toJsonFields : List (String × PatternSpec) → List (String × Json)
  | [] => []
  | (k, s) :: fs => (k, s.toJson) :: toJsonFields fs

end

end PatternSpec

/-- What a part of a document is when read as a declaration, as a list of declarations and as a
table of declarations. -/
structure Reading where
  document : Document
  spec? : Option PatternSpec
  specs? : Option (List PatternSpec)
  fields? : Option (List (String × PatternSpec))

namespace Reading

/-- Whether a key of a table is the name of a form; nothing if no such table can be read. -/
def names? (form : String) : Document → Option Bool
  | .text s => some (s == form)
  | .int n => if 0 ≤ n then some (n == 0) else none
  | _ => none

/-- The entry under the name of a form, if all keys can be read and the name occurs once. -/
def sole? (form : String) : List (Document × Reading) → Option Reading
  | [] => none
  | (k, r) :: entries => do
    if ← names? form k then
      -- the keys behind have to be readable too, and none of them may be the name again
      if entries.all fun e => names? form e.1 == some false then return r else none
    else sole? form entries

/-- A type name: its spelling, or a table with that spelling or its number as only key and `null`
behind it. -/
def typeName? : Document → Option TypeName
  | .text s => TypeName.ofName? s
  | .table [(.text s, .null)] => TypeName.ofName? s
  | .table [(.int n, .null)] => if 0 ≤ n then TypeName.all[n.toNat]? else none
  | _ => none

/-- The JSON data in a list. -/
def items? (r : Reading) : Option (List Json) :=
  match r.document with
  | .list ds => Document.toJsonItems? ds
  | _ => none

/-- The declaration that the entries of a table spell: the first acceptable form. -/
def select? (entries : List (Document × Reading)) : Option PatternSpec :=
  let under {α : Type} (form : String) (read? : Reading → Option α) : Option α :=
    (sole? form entries).bind read?
  -- where several forms are acceptable, the order decides
  ((under "equals" (·.document.toJson?)).map .equals)
    <|> ((under "is" items?).map .oneOf)
    <|> ((under "not" (·.spec?)).map .not)
    <|> ((under "type" (typeName? ·.document)).map .type)
    <|> ((under "startsWith" (·.document.text?)).map .startsWith)
    <|> ((under "fields" (·.fields?)).map .fields)
    <|> ((under "elements" (·.specs?)).map .elements)
    <|> ((under "allOf" (·.specs?)).map .allOf)
    <|> ((under "anyOf" (·.specs?)).map .anyOf)

/-- A table of declarations, if every key is a string and every entry a declaration. -/
def table? (entries : List (Document × Reading)) : Option (List (String × PatternSpec)) :=
  let entry? (e : Document × Reading) : Option (String × PatternSpec) := do
    let key ← e.1.text?
    let spec ← e.2.spec?
    return (key, spec)
  (entries.mapM entry?).map OrderedMap.ofList

mutual

/-- All roles of a part of a document, from those of its own parts. -/
def of : Document → Reading
  | .list ds =>
    { document := .list ds, spec? := none, specs? := (ofEach ds).mapM (·.spec?), fields? := none }
  | .table es =>
    let entries := ofEntries es
    { document := .table es, spec? := select? entries, specs? := none, fields? := table? entries }
  | d => { document := d, spec? := none, specs? := none, fields? := none }

/-- What the items of a list can be read as. -/
def ofEach : List Document → List Reading
  | [] => []
  | d :: ds => of d :: ofEach ds

/-- What the values of a table can be read as; the keys are kept as documents. -/
def ofEntries : List (Document × Document) → List (Document × Reading)
  | [] => []
  | (k, d) :: es => (k, of d) :: ofEntries es

end

end Reading

/-- The declaration that a document spells. -/
def PatternSpec.ofDocument? (d : Document) : Option PatternSpec := (Reading.of d).spec?

end Casewise
