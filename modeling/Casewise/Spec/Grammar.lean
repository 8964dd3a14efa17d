import Casewise.OrderedMap
import Casewise.Spec

/-!
# The grammar of declarations

A declaration is an object with the name of a form as a key and something acceptable to that form
under it. Other keys may stand beside it: names of no form, names of forms to which what stands
under them is not acceptable, and names of further forms. Of several acceptable forms the first in
a fixed order is meant. This module says so without reading anything.

* `PatternSpec.Form` — the nine forms, in that order, and their names.
* `Json.IsDeclaration`, `Json.IsPayload` — which JSON data are a declaration, and which are
  acceptable to a form.
* `Json.Declares`, `Json.Carries` — which declaration they are, and what they say to a form.
-/

namespace Casewise

/-- A form of a declaration. -/
inductive PatternSpec.Form where
  | equals
  | is
  | not
  | type
  | startsWith
  | fields
  | elements
  | allOf
  | anyOf
deriving DecidableEq

namespace PatternSpec.Form

/-- All forms, in the order in which they are looked for. -/
def all : List Form := [equals, is, not, type, startsWith, fields, elements, allOf, anyOf]

/-- The key of the form. -/
def name : Form → String
  | .equals => "equals"
  | .is => "is"
  | .not => "not"
  | .type => "type"
  | .startsWith => "startsWith"
  | .fields => "fields"
  | .elements => "elements"
  | .allOf => "allOf"
  | .anyOf => "anyOf"

theorem mem_all (form : Form) : form ∈ all := by
  cases form <;> decide

end PatternSpec.Form

/-- Data that spell a type name: its name, or that name as the only key of an object, with nothing
behind it. -/
inductive TypeName.SpelledBy (t : TypeName) : Json → Prop
  | text : SpelledBy t (.string t.name)
  | key : SpelledBy t (.object [(t.name, .null)])

namespace Json

open PatternSpec (Form)

mutual

/-- Data that are a declaration: an object with an acceptable payload under the key of a form. -/
inductive IsDeclaration : Json → Prop
  | object {members : List (String × Json)} {form : Form} {payload : Json} :
    OrderedMap.get? members form.name = some payload → IsPayload form payload →
      IsDeclaration (.object members)

/-- Data that are acceptable under the key of a form. -/
inductive IsPayload : Form → Json → Prop
  | equals (j : Json) : IsPayload .equals j
  | is (js : List Json) : IsPayload .is (.array js)
  | not {j : Json} : IsDeclaration j → IsPayload .not j
  | type {t : TypeName} {j : Json} : t.SpelledBy j → IsPayload .type j
  | startsWith (start : String) : IsPayload .startsWith (.string start)
  | fields {members : List (String × Json)} :
    (∀ m ∈ members, IsDeclaration m.2) → IsPayload .fields (.object members)
  | elements {js : List Json} : (∀ j ∈ js, IsDeclaration j) → IsPayload .elements (.array js)
  | allOf {js : List Json} : (∀ j ∈ js, IsDeclaration j) → IsPayload .allOf (.array js)
  | anyOf {js : List Json} : (∀ j ∈ js, IsDeclaration j) → IsPayload .anyOf (.array js)

end

mutual

/-- The declaration that data are: what the payload under the key of a form says to that form, if no
earlier form has an acceptable payload under its key. -/
inductive Declares : Json → PatternSpec → Prop
  | object {members : List (String × Json)} {before after : List Form} {form : Form}
    {payload : Json} {s : PatternSpec} :
    OrderedMap.get? members form.name = some payload → Carries form payload s →
      Form.all = before ++ form :: after →
      (∀ earlier ∈ before, ∀ j, OrderedMap.get? members earlier.name = some j →
        ¬IsPayload earlier j) →
      Declares (.object members) s

/-- What data say to a form under the key of which they stand. -/
inductive Carries : Form → Json → PatternSpec → Prop
  | equals (j : Json) : Carries .equals j (.equals j)
  | is (js : List Json) : Carries .is (.array js) (.oneOf js)
  | not {j : Json} {s : PatternSpec} : Declares j s → Carries .not j (.not s)
  | type {t : TypeName} {j : Json} : t.SpelledBy j → Carries .type j (.type t)
  | startsWith (start : String) : Carries .startsWith (.string start) (.startsWith start)
  | fields {members : List (String × Json)} {fs : List (String × PatternSpec)} :
    DeclaresMembers members fs → Carries .fields (.object members) (.fields fs)
  | elements {js : List Json} {ss : List PatternSpec} :
    DeclaresEach js ss → Carries .elements (.array js) (.elements ss)
  | allOf {js : List Json} {ss : List PatternSpec} :
    DeclaresEach js ss → Carries .allOf (.array js) (.allOf ss)
  | anyOf {js : List Json} {ss : List PatternSpec} :
    DeclaresEach js ss → Carries .anyOf (.array js) (.anyOf ss)

/-- The declarations that data are, item by item. -/
inductive DeclaresEach : List Json → List PatternSpec → Prop
  | nil : DeclaresEach [] []
  | cons {j : Json} {s : PatternSpec} {js : List Json} {ss : List PatternSpec} :
    Declares j s → DeclaresEach js ss → DeclaresEach (j :: js) (s :: ss)

/-- The declarations that data are, member by member under the same keys. -/
inductive DeclaresMembers : List (String × Json) → List (String × PatternSpec) → Prop
  | nil : DeclaresMembers [] []
  | cons {key : String} {j : Json} {s : PatternSpec} {members : List (String × Json)}
    {fs : List (String × PatternSpec)} :
    Declares j s → DeclaresMembers members fs →
      DeclaresMembers ((key, j) :: members) ((key, s) :: fs)

end

end Json

end Casewise
