import Casewise.Yaml.Tag

/-!
# Nodes of a YAML document

The tree that a YAML text spells, before its scalars are given a meaning. An alias refers to the
node of an anchor; `ρ` is what it refers by.

* `Node` — a scalar, sequence, mapping or alias.
* `Node.tag?`, `Node.events` — its tag, and the number of events that spell it.
-/

namespace Casewise.Yaml

/-- What may stand in front of the content of a node. -/
structure Properties (ρ : Type) where
  anchor : Option ρ := none
  tag : Option TagText := none

/-- A node of a document. -/
inductive Node (ρ : Type) where
  | alias (target : ρ)
  /-- a scalar; a plain one has neither quotes nor a block header -/
  | scalar (properties : Properties ρ) (text : String) (plain : Bool)
  | sequence (properties : Properties ρ) (items : List (Node ρ))
  | mapping (properties : Properties ρ) (entries : List (Node ρ × Node ρ))

namespace Node

variable {ρ : Type}

/-- The node of a place where nothing is written. -/
def empty : Node ρ := .scalar {} "" true

mutual

/-- How many events spell a node: one for a scalar or an alias, and for a collection one at either
end and those of its parts. -/
def events : Node ρ → Nat
  | .alias _ => 1
  | .scalar _ _ _ => 1
  | .sequence _ items => eventsOfItems items + 2
  | .mapping _ entries => eventsOfEntries entries + 2

/-- The events of the nodes of a sequence. -/
def eventsOfItems : List (Node ρ) → Nat
  | [] => 0
  | n :: ns => n.events + eventsOfItems ns

/-- The events of the nodes of a mapping, keys included. -/
def eventsOfEntries : List (Node ρ × Node ρ) → Nat
  | [] => 0
  | (k, n) :: ns => k.events + n.events + eventsOfEntries ns

end

end Node

end Casewise.Yaml
