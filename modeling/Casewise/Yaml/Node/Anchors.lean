import Casewise.OrderedMap
import Casewise.Yaml.Node.Grammar
import Casewise.Yaml.Token.Lexer

/-!
# Anchors

An alias stands for the node of an anchor. Anchors have numbers: the number of an anchor is how many
different names came before it, and an alias takes the number that its name has last been given.
Where two anchors have one number, which takes a name that is used twice, all aliases of that number
stand for the later node.

* `Node.link?` — the aliases by number; an alias before its anchor is refused.
* `Linked` — a node with the nodes of all anchors.
* `Linked.ofText?` — the document that a text spells.
-/

namespace Casewise.Yaml

/-- The number that each name of an anchor has. -/
abbrev AnchorNames := OrderedMap String Nat

namespace Properties

/-- The properties with a number for the anchor. -/
def link (names : AnchorNames) (p : Properties String) : Properties Nat × AnchorNames :=
  match p.anchor with
  | some name =>
    ({ anchor := some names.length, tag := p.tag }, OrderedMap.insert names name names.length)
  | none => ({ anchor := none, tag := p.tag }, names)

end Properties

namespace Node

mutual

/-- The node with numbers for anchors and aliases. -/
def link? (names : AnchorNames) : Node String → Option (Node Nat × AnchorNames)
  | .alias name => (OrderedMap.get? names name).map fun n => (.alias n, names)
  | .scalar p text plain =>
    let (p, names) := p.link names
    some (.scalar p text plain, names)
  | .sequence p items => do
    let (p, names) := p.link names
    let (items, names) ← linkItems? names items
    return (.sequence p items, names)
  | .mapping p entries => do
    let (p, names) := p.link names
    let (entries, names) ← linkEntries? names entries
    return (.mapping p entries, names)

/-- The nodes of a sequence, each seeing the names that the ones before it have given. -/
def linkItems? (names : AnchorNames) :
    List (Node String) → Option (List (Node Nat) × AnchorNames)
  | [] => some ([], names)
  | n :: ns => do
    let (n, names) ← n.link? names
    let (ns, names) ← linkItems? names ns
    return (n :: ns, names)

/-- The nodes of a mapping, each key in front of its value. -/
def linkEntries? (names : AnchorNames) :
    List (Node String × Node String) → Option (List (Node Nat × Node Nat) × AnchorNames)
  | [] => some ([], names)
  | (k, n) :: ns => do
    let (k, names) ← k.link? names
    let (n, names) ← n.link? names
    let (ns, names) ← linkEntries? names ns
    return ((k, n) :: ns, names)

end

/-- A node under its number, if it has one. -/
def numbered (p : Properties Nat) (n : Node Nat) : List (Nat × Node Nat) :=
  (p.anchor.map fun a => (a, n)).toList

mutual

/-- All nodes with an anchor, in the order in which they begin. -/
def anchored : Node Nat → List (Nat × Node Nat)
  | .alias _ => []
  | .scalar p text plain => numbered p (.scalar p text plain)
  | .sequence p items => numbered p (.sequence p items) ++ anchoredItems items
  | .mapping p entries => numbered p (.mapping p entries) ++ anchoredEntries entries

/-- The nodes with an anchor in a sequence. -/
def anchoredItems : List (Node Nat) → List (Nat × Node Nat)
  | [] => []
  | n :: ns => n.anchored ++ anchoredItems ns

/-- The nodes with an anchor in a mapping, those of a key in front of those of its value. -/
def anchoredEntries : List (Node Nat × Node Nat) → List (Nat × Node Nat)
  | [] => []
  | (k, n) :: ns => k.anchored ++ n.anchored ++ anchoredEntries ns

end

end Node

/-- A node with the nodes that aliases stand for. -/
structure Linked where
  root : Node Nat
  anchors : OrderedMap Nat (Node Nat)

namespace Linked

/-- The node with its aliases resolved, if each has an anchor in front of it. -/
def ofNode? (n : Node String) : Option Linked := do
  let (root, _) ← n.link? []
  return { root, anchors := .ofList root.anchored }

/-- The document that a text spells. -/
def ofText? (s : String) : Option Linked := do
  ofNode? (← Node.ofTokens? (← Token.ofText? s))

end Linked

end Casewise.Yaml
