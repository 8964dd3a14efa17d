import Casewise.Json

/-!
# Documents

A document is what a text spells before anything is made of it: repeated keys of a table are still
there, and a key may be any document. JSON text has strings for keys only; YAML text has no such
limit.

* `Document.toJson?` — JSON data, if all keys are strings. A repeated key has its last value at its
  first position, and a number that is not finite becomes `null`.
* `Json.toDocument` — JSON data as a document.
* `entryUnder?` — the entry under a name that may occur at most once.
-/

namespace Casewise

/-- The entry under `name`, if there is one; nothing at all if there are several. -/
def entryUnder? {α : Type} (name : String) (entries : List (String × α)) : Option (Option α) :=
  match entries.filter fun e => e.1 == name with
  | [] => some none
  | [e] => some (some e.2)
  | _ => none

/-- A tree of scalars, lists and tables. -/
inductive Document where
  | null
  | bool (b : Bool)
  | int (n : Int)
  | real (x : Binary64)
  | text (s : String)
  | list (items : List Document)
  | table (entries : List (Document × Document))

namespace Document

/-- The text of a scalar that is one. -/
def text? : Document → Option String
  | .text s => some s
  | _ => none

/-- JSON has no number for infinities and NaN. -/
def realToJson (x : Binary64) : Json := if x.isFinite then .number (.real x) else .null

mutual

/-- The JSON data that a document spells. -/
def toJson? : Document → Option Json
  | .null => some .null
  | .bool b => some (.bool b)
  | .int n => some (.number (.int n))
  | .real x => some (realToJson x)
  | .text s => some (.string s)
  | .list items => (toJsonItems? items).map .array
  | .table entries => (toJsonMembers? entries).map fun ms => .object (OrderedMap.ofList ms)

/-- The items of a list, if all of them are JSON data. -/
def toJsonItems? : List Document → Option (List Json)
  | [] => some []
  | d :: ds => do
    let j ← d.toJson?
    let js ← toJsonItems? ds
    return j :: js

/-- The entries of a table, if all keys are texts and all values are JSON data; a repeated key is
still repeated here. -/
def toJsonMembers? : List (Document × Document) → Option (List (String × Json))
  | [] => some []
  | (k, d) :: ds => do
    let key ← k.text?
    let j ← d.toJson?
    let js ← toJsonMembers? ds
    return (key, j) :: js

end

end Document

namespace Json

mutual

/-- JSON data as a document. -/
def toDocument : Json → Document
  | .null => .null
  | .bool b => .bool b
  | .number (.int n) => .int n
  | .number (.real x) => .real x
  | .string s => .text s
  | .array items => .list (toDocuments items)
  | .object members => .table (toEntries members)

/-- The items of an array as documents. -/
def toDocuments : List Json → List Document
  | [] => []
  | j :: js => j.toDocument :: toDocuments js

/-- The members of an object as entries under texts. -/
def toEntries : List (String × Json) → List (Document × Document)
  | [] => []
  | (k, j) :: js => (.text k, j.toDocument) :: toEntries js

end

end Json

end Casewise
