import Casewise.Options
import Casewise.Pattern

/-!
# Trees of templates

Templates over properties are written one inside the other. Such a pattern is a tree: its inner
nodes list properties, and its leaves are patterns of any kind, each of which is asked of a value
somewhere inside the input. The value is the one that a handler reads by following the keys from the
root to the leaf.

* `Template` — the tree. Every inner node lists at least one property.
* `Template.toPattern` — the tree as a pattern, and `Template.chain` — a tree with one leaf.
* `Template.paths` — the ways from the root to the leaves, in order.
* `Value.follow` — the value behind a list of keys, read by `Value.get`, which gives `undefined`
  where there is nothing.
* `MissingFields.permits` — where a template goes on from a value to a property.
-/

namespace Casewise

/-- Templates over properties inside one another. An inner node has a first property and further
ones. -/
inductive Template (ε : Type) where
  | leaf (p : Pattern ε)
  | node (key : PropertyKey) (child : Template ε) (rest : List (PropertyKey × Template ε))

namespace Template

variable {ε : Type}

mutual

/-- The tree as a pattern. -/
def toPattern : Template ε → Pattern ε
  | .leaf p => p
  | .node key child rest => .fields ((key, child.toPattern) :: toPatterns rest)

/-- The patterns under the keys of a node. -/
def toPatterns : List (PropertyKey × Template ε) → List (PropertyKey × Pattern ε)
  | [] => []
  | (key, t) :: ts => (key, t.toPattern) :: toPatterns ts

end

/-- The way from the root to a leaf: the keys on it, and the pattern that it leads to. -/
structure Path (ε : Type) where
  keys : List PropertyKey
  pattern : Pattern ε

/-- The way with one more key in front. -/
def Path.below (key : PropertyKey) (path : Path ε) : Path ε :=
  { path with keys := key :: path.keys }

mutual

/-- The ways from the root to the leaves, in the order of the leaves. -/
def paths : Template ε → List (Path ε)
  | .leaf p => [⟨[], p⟩]
  | .node key child rest => child.paths.map (.below key) ++ pathsEach rest

/-- The paths of the branches of a node, each below its key, from left to right. -/
def pathsEach : List (PropertyKey × Template ε) → List (Path ε)
  | [] => []
  | (key, t) :: ts => t.paths.map (.below key) ++ pathsEach ts

end

/-- The tree with a single leaf behind these keys. -/
def chain (keys : List PropertyKey) (p : Pattern ε) : Template ε :=
  keys.foldr (fun key t => .node key t []) (.leaf p)

/-- The branches of a node become fields one by one. -/
theorem toPatterns_eq_map (ts : List (PropertyKey × Template ε)) :
    toPatterns ts = ts.map fun b => (b.1, b.2.toPattern) := by
  induction ts with
  | nil => rfl
  | cons b ts ih => rw [toPatterns, List.map_cons, ih]

/-- The pattern of an inner node lists its branches. -/
theorem toPattern_node (key : PropertyKey) (child : Template ε)
    (rest : List (PropertyKey × Template ε)) :
    (node key child rest).toPattern
      = .fields (((key, child) :: rest).map fun b => (b.1, b.2.toPattern)) := by
  rw [toPattern, toPatterns_eq_map, List.map_cons]

/-- The paths of a node are those of its branches, one branch after the other. -/
theorem pathsEach_eq_flatMap (ts : List (PropertyKey × Template ε)) :
    pathsEach ts = ts.flatMap fun b => b.2.paths.map (.below b.1) := by
  induction ts with
  | nil => rfl
  | cons b ts ih => rw [pathsEach, List.flatMap_cons, ih]

/-- The paths of an inner node go through its branches, one after the other. -/
theorem paths_node (key : PropertyKey) (child : Template ε)
    (rest : List (PropertyKey × Template ε)) :
    (node key child rest).paths
      = ((key, child) :: rest).flatMap fun b => b.2.paths.map (.below b.1) := by
  rw [paths, pathsEach_eq_flatMap, List.flatMap_cons]

/-- A chain of keys is a node with one branch, on which the rest of the chain stands. -/
@[simp] theorem chain_cons (key : PropertyKey) (keys : List PropertyKey) (p : Pattern ε) :
    chain (key :: keys) p = .node key (chain keys p) [] := rfl

/-- A chain has one path, along all of its keys. -/
theorem paths_chain (keys : List PropertyKey) (p : Pattern ε) :
    (chain keys p).paths = [⟨keys, p⟩] := by
  induction keys with
  | nil => rfl
  | cons key keys ih => rw [chain_cons, paths, ih, pathsEach]; rfl

end Template

/-- The value behind these keys. -/
def Value.follow (v : Value) (keys : List PropertyKey) : Value := keys.foldl Value.get v

/-- The first key is followed first. -/
@[simp] theorem Value.follow_cons (v : Value) (key : PropertyKey) (keys : List PropertyKey) :
    v.follow (key :: keys) = (v.get key).follow keys := rfl

namespace MissingFields

/-- Whether a template goes on from `v` to the property under `key`: the property has to be there,
or, where missing properties are tested as `undefined`, `v` has to be able to have properties. -/
def permits (missing : MissingFields) (v : Value) (key : PropertyKey) : Bool :=
  match missing with
  | .reject => v.hasProperty key
  | .undefined => v.isObjectLike

/-- Whether a template goes all the way along these keys. -/
def permitsAll (missing : MissingFields) : Value → List PropertyKey → Bool
  | _, [] => true
  | v, key :: keys => missing.permits v key && permitsAll missing (v.get key) keys

/-- A template goes all the way if it takes every step on it. -/
theorem permitsAll_iff (missing : MissingFields) (v : Value) (keys : List PropertyKey) :
    missing.permitsAll v keys = true ↔
      ∀ (i : Nat) key, keys[i]? = some key →
        missing.permits (v.follow (keys.take i)) key = true := by
  induction keys generalizing v with
  | nil => simp [permitsAll]
  | cons key keys ih =>
    rw [permitsAll, Bool.and_eq_true, ih]
    constructor
    · rintro ⟨hfirst, hrest⟩ i k hi
      cases i with
      | zero =>
        cases hi
        exact hfirst
      | succ i => exact hrest i k hi
    · intro h
      exact ⟨h 0 key rfl, fun i k hi => h (i + 1) k hi⟩

end MissingFields

end Casewise
