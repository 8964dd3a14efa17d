import Casewise.Regex.Validity
import Casewise.Value

/-!
# Regular expressions as values

* `Value.ofRegexp?` — the value of a regular expression; a text that spells none has no value.
-/

namespace Casewise

/-- The value of the regular expression that a text spells. -/
def Value.ofRegexp? (source : String) : Option Value :=
  if Regex.isValid source then some (.regexp source) else none

end Casewise
