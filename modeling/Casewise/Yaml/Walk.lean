import Casewise.Yaml.Node.Anchors
import Casewise.Yaml.Scalar

/-!
# Walks over a YAML document

A document with aliases is a graph, and to read it as a tree may take arbitrarily long. So a walk
may follow only so many aliases, a hundred for each event of the document, and go down only so many
collections.

* `Walk` — a reading that knows the anchors and counts the aliases that it follows.
* `Node.toDocument`, `Node.toJson` — a node as a document, and as JSON data with the text of every
  key as it is written.
* `Node.text`, `Node.items`, `Node.fields` — a node as the text of a scalar, as a list and as a
  structure with fixed entries.
-/

namespace Casewise.Yaml

/-- A reading of a document with anchors. The state is how many aliases may still be followed. -/
abbrev Walk (α : Type) := ReaderT (OrderedMap Nat (Node Nat)) (StateT Nat Option) α

namespace Walk

/-- A part of a walk that may have no result. -/
def ofOption {α : Type} : Option α → Walk α
  | some a => pure a
  | none => failure

/-- The result of a walk over a whole document. -/
def run? {α : Type} (walk : Node Nat → Walk α) (l : Linked) : Option α :=
  ((walk l.root l.anchors).run (100 * l.root.events)).map Prod.fst

end Walk

/-- How many collections a document may be nested in. -/
def maxDepth : Nat := 128

namespace Node

/-- The node that an alias stands for; any other node itself. -/
def follow : Node Nat → Walk (Node Nat)
  | .alias target => do
    match ← get with
    | 0 => failure
    | left + 1 =>
      set left
      Walk.ofOption (OrderedMap.get? (← read) target)
  | n => pure n

/-- The text of a scalar, whatever it means. -/
def text (n : Node Nat) : Walk String := do
  match ← n.follow with
  | .scalar _ text _ => return text
  | _ => failure

/-- The items of a sequence; an empty plain scalar has none. -/
def items (n : Node Nat) : Walk (List (Node Nat)) := do
  match ← n.follow with
  | .sequence _ items => return items
  | .scalar _ "" true => return []
  | _ => failure

/-- The entries of a structure with the fields `names`, each present or not. An empty plain scalar
is a structure without entries. -/
def fields (names : List String) (n : Node Nat) : Walk (List (Option (Node Nat))) := do
  match ← n.follow with
  | .mapping _ entries =>
    let entries ← entries.mapM fun (k, v) => do return (← k.text, v)
    names.mapM fun name => Walk.ofOption (entryUnder? name entries)
  | .scalar _ "" true => return names.map fun _ => none
  | _ => failure

/-- A collection with a tag that gives a name is no data. -/
def checkTag (p : Properties Nat) : Walk Unit :=
  if (p.tag.bind TagText.localName?).isSome then failure else pure ()

/-- A node as a document, `depth` collections deep at most. -/
def toDocument (depth : Nat) (n : Node Nat) : Walk Document := do
  match ← n.follow with
  | .alias _ => failure
  | .scalar p text plain => Walk.ofOption (Scalar.meaning? p.tag text plain)
  | .sequence p items =>
    checkTag p
    match depth with
    | 0 => failure
    | depth + 1 => return .list (← items.mapM (toDocument depth))
  | .mapping p entries =>
    checkTag p
    match depth with
    | 0 => failure
    | depth + 1 =>
      return .table (← entries.mapM fun (k, v) => do
        return (← toDocument depth k, ← toDocument depth v))

/-- A node as JSON data, `depth` collections deep at most. A key is the text of its scalar. -/
def toJson (depth : Nat) (n : Node Nat) : Walk Json := do
  match ← n.follow with
  | .alias _ => failure
  | .scalar p text plain =>
    Walk.ofOption ((Scalar.meaning? p.tag text plain).bind Document.toJson?)
  | .sequence p items =>
    checkTag p
    match depth with
    | 0 => failure
    | depth + 1 => return .array (← items.mapM (toJson depth))
  | .mapping p entries =>
    checkTag p
    match depth with
    | 0 => failure
    | depth + 1 =>
      let members ← entries.mapM fun (k, v) => do return (← k.text, ← toJson depth v)
      return .object (OrderedMap.ofList members)

end Node

end Casewise.Yaml
