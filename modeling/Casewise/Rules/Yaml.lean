import Casewise.Rules.Encoding
import Casewise.Yaml.Walk

/-!
# Configuration in YAML

Options, rule sets and declared patterns as YAML texts. Options and rule sets are read from the
nodes of the text: what is meant as a name or a key is the text of a scalar, even of one that looks
like a number. A declared pattern is read from the document that its node means.

* `PatternSpec.ofYaml?` — a declaration.
* `MatchOptions.ofYaml`, `RuleSet.ofYaml` — options and rule sets, which are also checked.
* `ConfigError` — why a text is refused.
-/

namespace Casewise

open Yaml

/-- The reason why a configuration is refused. -/
inductive ConfigError where
  /-- the text does not spell what is asked for -/
  | malformed
  /-- the options that it spells are not acceptable -/
  | options (e : OptionsError)

namespace MissingFields

/-- A name, or a tag that gives it to an empty node. -/
def ofNode (n : Node Nat) : Walk MissingFields := do
  match ← n.follow with
  | .scalar p text plain =>
    match p.tag.bind TagText.localName? with
    | some name =>
      if plain && (text.isEmpty || Scalar.isNull text) then Walk.ofOption (ofName? name)
      else failure
    | none => Walk.ofOption (ofName? text)
  | _ => failure

end MissingFields

/-- The value of a field, or its default where the field is missing. -/
def fieldOr {α : Type} (default : α) (read : Node Nat → Walk α) : Option (Node Nat) → Walk α
  | some n => read n
  | none => pure default

/-- The value of a field that must be there. -/
def neededField {α : Type} (read : Node Nat → Walk α) : Option (Node Nat) → Walk α
  | some n => read n
  | none => failure

/-- A declaration, `depth` collections deep at most. -/
def PatternSpec.ofNode (depth : Nat) (n : Node Nat) : Walk PatternSpec := do
  Walk.ofOption (PatternSpec.ofDocument? (← n.toDocument depth))

namespace MatchOptions

def ofNode (n : Node Nat) : Walk MatchOptions := do
  let defaults : MatchOptions := {}
  match ← n.fields ["tagField", "missingFields"] with
  | [tagField, missingFields] =>
    let tagField ← fieldOr defaults.tagField Node.text tagField
    let missingFields ← fieldOr defaults.missingFields MissingFields.ofNode missingFields
    return { tagField, missingFields }
  | _ => failure

end MatchOptions

namespace Rule

def ofNode (depth : Nat) (n : Node Nat) : Walk Rule := do
  match ← n.fields ["when", "then"] with
  | [condition, result] =>
    let condition ← neededField (PatternSpec.ofNode (depth - 1)) condition
    let result ← neededField (Node.toJson (depth - 1)) result
    return { condition, result }
  | _ => failure

end Rule

namespace RuleSet

/-- A fallback; a plain `null` or nothing is none. -/
def otherwiseOfNode (depth : Nat) (n : Node Nat) : Walk (Option Json) := do
  let n ← n.follow
  match n with
  | .scalar { tag := none, .. } text true =>
    if text.isEmpty || Scalar.isNull text then return none else return some (← n.toJson depth)
  | .scalar { tag := some tag, .. } text true =>
    if tag = .standard "null" then
      if Scalar.isNull text then return none else failure
    else return some (← n.toJson depth)
  | _ => return some (← n.toJson depth)

def ofNode (n : Node Nat) : Walk RuleSet := do
  let depth := maxDepth - 1
  let rules (n : Node Nat) : Walk (List Rule) := do
    (← n.items).mapM (Rule.ofNode (depth - 1))
  match ← n.fields ["options", "rules", "otherwise"] with
  | [options, ruleNodes, otherwise] =>
    let options ← fieldOr {} MatchOptions.ofNode options
    let rules ← fieldOr [] rules ruleNodes
    let otherwise ← fieldOr none (otherwiseOfNode depth) otherwise
    return { options, rules, otherwise }
  | _ => failure

end RuleSet

/-- What a walk over a YAML text finds. -/
def readYaml {α : Type} (walk : Node Nat → Walk α) (s : String) : Except ConfigError α :=
  match (Linked.ofText? s).bind (Walk.run? walk) with
  | some a => .ok a
  | none => .error .malformed

/-- Refuses options that are not acceptable. -/
def checkConfig (o : MatchOptions) : Except ConfigError Unit := o.check.mapError .options

/-- The declaration that a YAML text spells. -/
def PatternSpec.ofYaml (s : String) : Except ConfigError PatternSpec :=
  readYaml (PatternSpec.ofNode maxDepth) s

/-- The options that a YAML text spells, if they are acceptable. -/
def MatchOptions.ofYaml (s : String) : Except ConfigError MatchOptions := do
  let o ← readYaml MatchOptions.ofNode s
  checkConfig o
  return o

/-- The rule set that a YAML text spells, if its options are acceptable. -/
def RuleSet.ofYaml (s : String) : Except ConfigError RuleSet := do
  let r ← readYaml RuleSet.ofNode s
  checkConfig r.options
  return r

end Casewise
