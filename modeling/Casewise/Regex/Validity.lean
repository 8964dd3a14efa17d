import Casewise.Regex.Grammar
import Casewise.Regex.Machine

/-!
# Valid expressions

* `Regex.isAdmissible` — the demands on an expression that its grammar does not make.
* `Regex.isValid` — whether a text is an expression that meets them.
-/

namespace Casewise.Regex

/-- Whether an expression is not nested too deep, stands for text only, and needs no more memory
than there is. -/
def isAdmissible (r : Regex) : Bool := r.depth ≤ maxDepth && r.plain?.any Plain.fits

/-- Whether a text is a regular expression that meets all demands. -/
def isValid (s : String) : Bool := (ofText? s).any isAdmissible

end Casewise.Regex
