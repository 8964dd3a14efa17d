import Casewise.Text.Quoted

/-!
# Options of a matcher

* `MissingFields` — what a template over properties makes of a key that the input does not have.
* `MatchOptions` — the options shared by the clauses of one matcher.
* `MatchOptions.check` — the one demand on them: the name of the tag field is not empty.
-/

namespace Casewise

/-- The treatment of a key that is missing from the input. -/
inductive MissingFields where
  /-- the template fails, whatever it asks of the property -/
  | reject
  /-- the property is tested as `undefined` -/
  | undefined
deriving DecidableEq

namespace MissingFields

/-- The name under which a treatment is written in declarations. -/
def name : MissingFields → String
  | .reject => "reject"
  | .undefined => "undefined"

/-- The treatment of that name, if there is one. -/
def ofName? (s : String) : Option MissingFields :=
  [reject, undefined].find? fun m => m.name == s

/-- The structure of a treatment, spelled out. -/
def inspect : MissingFields → String
  | .reject => "Reject"
  | .undefined => "Undefined"

end MissingFields

/-- Options shared by every clause of a matcher. -/
structure MatchOptions where
  /-- the property that tag clauses look at -/
  tagField : String := "_tag"
  missingFields : MissingFields := .reject
deriving DecidableEq

/-- The reason why options are refused. -/
inductive OptionsError where
  | emptyTagField

/-- What the refusal says; it names the option by the key that it has in a declaration. -/
def OptionsError.message : OptionsError → String
  | .emptyTagField => "tagField must not be empty"

namespace MatchOptions

/-- Options are acceptable if the tag field has a name. -/
def check (o : MatchOptions) : Except OptionsError Unit :=
  if o.tagField.isEmpty then .error .emptyTagField else .ok ()

/-- The structure of the options, spelled out field by field. -/
def inspect (o : MatchOptions) : String :=
  "MatchOptions \x7b tag_field: " ++ Quoted.encode o.tagField ++ ", missing_fields: " ++
    o.missingFields.inspect ++ " \x7d"

end MatchOptions

end Casewise
