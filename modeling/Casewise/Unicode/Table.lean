import Casewise.Unicode.CodeSet

/-!
# Tables of characters

A table lists sets of characters with the names that they have. Names are in lower case, without
blanks, hyphens and low lines.

* `Table.find?` — the set with a name.
-/

namespace Casewise.Unicode

/-- Sets of characters, each with its names and the lines of its entries. -/
abbrev Table := List (List String × List String)

/-- The set with a name. -/
def Table.find? (t : Table) (name : String) : Option CodeSet :=
  (List.find? (fun row => row.1.contains name) t).map fun row => .ofLines row.2

end Casewise.Unicode
