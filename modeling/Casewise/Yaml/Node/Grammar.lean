import Casewise.Yaml.Node
import Casewise.Yaml.Token

/-!
# From tokens to nodes

The grammar of YAML over tokens. Every reader takes the tokens from some place on and returns what
it has read with the tokens that are left.

* `Directives` — the directives of a document and the tags that its shorthands stand for.
* `Node.node?` — a node with its properties.
* `Node.ofTokens?` — the node of a text that holds at most one document.
-/

namespace Casewise.Yaml

/-! ## Directives -/

/-- What the directives in front of a document say. -/
structure Directives where
  versioned : Bool := false
  /-- the shorthands: a handle with the start that it stands for -/
  shorthands : List (String × TagText) := []

namespace Directives

/-- The directives in front of a document. At most one may name a version, which must be 1.1 or
1.2, and none may define a handle anew. -/
def read? (d : Directives) : List Token → Option (Directives × List Token)
  | .version major minor :: ts =>
    if d.versioned ∨ major ≠ 1 ∨ (minor ≠ 1 ∧ minor ≠ 2) then none
    else { d with versioned := true }.read? ts
  | .tagDirective handle start :: ts =>
    if (d.shorthands.lookup handle).isSome then none
    else { d with shorthands := d.shorthands ++ [(handle, start)] }.read? ts
  | ts => some (d, ts)

/-- The tag that a handle and a suffix spell. Two handles have a meaning of their own. -/
def tag? (d : Directives) (handle : String) (suffix : TagText) : Option TagText :=
  if handle.isEmpty then some suffix
  else
    let known := d.shorthands ++ [("!", .mark), ("!!", .standard "")]
    (known.lookup handle).map (· ++ suffix)

end Directives

namespace Node

/-! ## Properties -/

/-- A tag in front of a node, if there is one. -/
def tagBefore? (d : Directives) : List Token → Option (Option TagText × List Token)
  | .tag handle suffix :: ts => (d.tag? handle suffix).map fun t => (some t, ts)
  | ts => some (none, ts)

/-- An anchor in front of a node, if there is one. -/
def anchorBefore : List Token → Option String × List Token
  | .anchor name :: ts => (some name, ts)
  | ts => (none, ts)

/-- An anchor and a tag in either order, each of which may be missing. -/
def properties? (d : Directives) (ts : List Token) : Option (Properties String × List Token) := do
  match anchorBefore ts with
  | (some name, ts) =>
    let (tag, ts) ← tagBefore? d ts
    return ({ anchor := some name, tag }, ts)
  | (none, ts) =>
    let (tag, ts) ← tagBefore? d ts
    match tag with
    | some tag =>
      let (anchor, ts) := anchorBefore ts
      return ({ anchor, tag := some tag }, ts)
    | none => return ({}, ts)

/-- The first token, if there is one, is among those that end a part of a collection. -/
def ends (closing : List Token) : List Token → Bool
  | [] => false
  | t :: _ => closing.contains t

/-! ## Nodes -/

mutual

/-- A node. `inBlock` allows block collections, and `compact` also a block sequence at the column
of the mapping around it, which has no tokens of its own. -/
def node? (d : Directives) :
    Nat → (inBlock compact : Bool) → List Token → Option (Node String × List Token)
  | 0, _, _, _ => none
  | _ + 1, _, _, .alias name :: ts => some (.alias name, ts)
  | fuel + 1, inBlock, compact, ts => do
    let (p, ts) ← properties? d ts
    match ts with
    | .scalar text plain :: ts => return (.scalar p text plain, ts)
    | .flowSequence :: ts =>
      let (items, ts) ← flowItems? d fuel true ts
      return (.sequence p items, ts)
    | .flowMapping :: ts =>
      let (entries, ts) ← flowEntries? d fuel true ts
      return (.mapping p entries, ts)
    | ts =>
      -- block collections stand only where they are allowed, and properties alone make an empty
      -- node
      match inBlock, compact, ts with
      | _, true, .item :: _ =>
        let (items, ts) ← compactItems? d fuel ts
        return (.sequence p items, ts)
      | true, _, .blockSequence :: ts =>
        let (items, ts) ← blockItems? d fuel ts
        return (.sequence p items, ts)
      | true, _, .blockMapping :: ts =>
        let (entries, ts) ← blockEntries? d fuel ts
        return (.mapping p entries, ts)
      | _, _, ts =>
        if p.anchor.isSome || p.tag.isSome then return (.scalar p "" true, ts) else none

/-- A node, or the empty one before a token that ends its place. -/
def nodeUnless? (d : Directives) :
    Nat → (inBlock compact : Bool) → (closing : List Token) → List Token →
      Option (Node String × List Token)
  | 0, _, _, _, _ => none
  | fuel + 1, inBlock, compact, closing, ts =>
    if ends closing ts then some (.empty, ts) else node? d fuel inBlock compact ts

/-- The items of a block sequence up to its end. -/
def blockItems? (d : Directives) : Nat → List Token → Option (List (Node String) × List Token)
  | 0, _ => none
  | fuel + 1, .item :: ts => do
    let (n, ts) ← nodeUnless? d fuel true false [.item, .blockEnd] ts
    let (ns, ts) ← blockItems? d fuel ts
    return (n :: ns, ts)
  | _ + 1, .blockEnd :: ts => some ([], ts)
  | _ + 1, _ => none

/-- The items of a block sequence that ends where no item follows. -/
def compactItems? (d : Directives) : Nat → List Token → Option (List (Node String) × List Token)
  | 0, _ => none
  | fuel + 1, .item :: ts => do
    let (n, ts) ← nodeUnless? d fuel true false [.item, .key, .value, .blockEnd] ts
    let (ns, ts) ← compactItems? d fuel ts
    return (n :: ns, ts)
  | _ + 1, ts => some ([], ts)

/-- The value of an entry; the empty node where none is written. -/
def valueUnless? (d : Directives) :
    Nat → (inBlock : Bool) → (closing : List Token) → List Token →
      Option (Node String × List Token)
  | 0, _, _, _ => none
  | fuel + 1, inBlock, closing, .value :: ts => nodeUnless? d fuel inBlock inBlock closing ts
  | _ + 1, _, _, ts => some (.empty, ts)

/-- The entries of a block mapping up to its end. -/
def blockEntries? (d : Directives) :
    Nat → List Token → Option (List (Node String × Node String) × List Token)
  | 0, _ => none
  | fuel + 1, .key :: ts => do
    let (k, ts) ← nodeUnless? d fuel true true [.key, .value, .blockEnd] ts
    let (n, ts) ← valueUnless? d fuel true [.key, .value, .blockEnd] ts
    let (ns, ts) ← blockEntries? d fuel ts
    return ((k, n) :: ns, ts)
  | _ + 1, .blockEnd :: ts => some ([], ts)
  | _ + 1, _ => none

/-- The items of a flow sequence up to its end; before all but the first one there is a comma. An
item may be a single entry of a mapping. -/
def flowItems? (d : Directives) :
    Nat → (first : Bool) → List Token → Option (List (Node String) × List Token)
  | 0, _, _ => none
  | _ + 1, _, .flowSequenceEnd :: ts => some ([], ts)
  | fuel + 1, false, .separator :: ts => flowItemsFrom? d fuel ts
  | _ + 1, false, _ => none
  | fuel + 1, true, ts => flowItemsFrom? d fuel ts

/-- The items of a flow sequence from one of them on, or its end. -/
def flowItemsFrom? (d : Directives) :
    Nat → List Token → Option (List (Node String) × List Token)
  | 0, _ => none
  | _ + 1, .flowSequenceEnd :: ts => some ([], ts)
  | fuel + 1, .key :: ts => do
    -- the item is a mapping of one entry
    let (k, ts) ← soleKey? d fuel ts
    let (n, ts) ← valueUnless? d fuel false [.separator, .flowSequenceEnd] ts
    let (ns, ts) ← flowItems? d fuel false ts
    return (.mapping {} [(k, n)] :: ns, ts)
  | fuel + 1, ts => do
    let (n, ts) ← node? d fuel false false ts
    let (ns, ts) ← flowItems? d fuel false ts
    return (n :: ns, ts)

/-- The key of a single entry. Where it is missing, the token that shows this is passed over. -/
def soleKey? (d : Directives) : Nat → List Token → Option (Node String × List Token)
  | 0, _ => none
  | fuel + 1, ts =>
    if ends [.value, .separator, .flowSequenceEnd] ts then some (.empty, ts.drop 1)
    else node? d fuel false false ts

/-- The entries of a flow mapping up to its end; before all but the first one there is a comma. -/
def flowEntries? (d : Directives) :
    Nat → (first : Bool) → List Token → Option (List (Node String × Node String) × List Token)
  | 0, _, _ => none
  | _ + 1, _, .flowMappingEnd :: ts => some ([], ts)
  | fuel + 1, false, .separator :: ts => flowEntriesFrom? d fuel ts
  | _ + 1, false, _ => none
  | fuel + 1, true, ts => flowEntriesFrom? d fuel ts

/-- The entries of a flow mapping from one of them on, or its end. A node without a key indicator
is a key without a value. -/
def flowEntriesFrom? (d : Directives) :
    Nat → List Token → Option (List (Node String × Node String) × List Token)
  | 0, _ => none
  | _ + 1, .flowMappingEnd :: ts => some ([], ts)
  | fuel + 1, .key :: ts => do
    let (k, ts) ← nodeUnless? d fuel false false [.value, .separator, .flowMappingEnd] ts
    let (n, ts) ← valueUnless? d fuel false [.separator, .flowMappingEnd] ts
    let (ns, ts) ← flowEntries? d fuel false ts
    return ((k, n) :: ns, ts)
  | fuel + 1, ts => do
    let (k, ts) ← node? d fuel false false ts
    let (ns, ts) ← flowEntries? d fuel false ts
    return ((k, .empty) :: ns, ts)

end

/-! ## Documents -/

/-- The content of a document behind its marker. -/
def content? (d : Directives) (fuel : Nat) : List Token → Option (Node String × List Token)
  | [] => some (.empty, [])
  | t :: ts =>
    match t with
    | .version _ _ | .tagDirective _ _ | .documentStart | .documentEnd => some (.empty, t :: ts)
    | _ => node? d fuel true false (t :: ts)

/-- The node of a text with at most one document. Only the first document of a text may go without
a marker; a text without any document spells the empty node. -/
def ofTokens? (ts : List Token) : Option (Node String) := do
  let fuel := 4 * ts.length + 4
  let (n, rest) ← match ts with
    | [] => pure (.empty, [])
    | .version _ _ :: _ | .tagDirective _ _ :: _ | .documentStart :: _ =>
      let (d, ts) ← Directives.read? {} ts
      match ts with
      | .documentStart :: ts => content? d fuel ts
      | _ => none
    | ts => node? {} fuel true false ts
  if rest.all (· == .documentEnd) then return n else none

end Node

end Casewise.Yaml
