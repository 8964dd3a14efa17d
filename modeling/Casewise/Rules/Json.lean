import Casewise.Json.Text
import Casewise.Rules.Encoding

/-!
# Configuration in JSON

Options, rule sets and declared patterns as JSON texts. Of an entry that options, a rule or a rule
set ignores only the form counts; a declared pattern ignores entries too, but they must be sound.

* `PatternSpec.ofJsonText?`, `MatchOptions.ofJsonText?`, `RuleSet.ofJsonText?` — what a text spells.
-/

namespace Casewise

/-- The declaration that a JSON text spells. -/
def PatternSpec.ofJsonText? (s : String) : Option PatternSpec :=
  (Document.ofJsonText? .all s).bind PatternSpec.ofDocument?

/-- What is wanted of options. -/
def MatchOptions.interest : Interest := .fields [("tagField", .all), ("missingFields", .all)]

/-- The options that a JSON text spells. -/
def MatchOptions.ofJsonText? (s : String) : Option MatchOptions :=
  (Document.ofJsonText? MatchOptions.interest s).bind MatchOptions.ofDocument?

/-- What is wanted of a rule. -/
def Rule.interest : Interest := .fields [("when", .all), ("then", .all)]

/-- What is wanted of a rule set. -/
def RuleSet.interest : Interest :=
  .fields [("options", MatchOptions.interest), ("rules", .items Rule.interest),
    ("otherwise", .all)]

/-- The rule set that a JSON text spells. -/
def RuleSet.ofJsonText? (s : String) : Option RuleSet :=
  (Document.ofJsonText? RuleSet.interest s).bind RuleSet.ofDocument?

end Casewise
