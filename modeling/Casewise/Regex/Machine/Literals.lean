import Casewise.Regex.Machine.Size

/-!
# Choices among literals

A choice among literals is a tree of bytes, in which literals that begin alike share their
beginning. An earlier literal wins over a later one. So a mark where a literal ends divides the
steps that go on from there: no literal that comes later shares a step in front of it.

* `LiteralTree` — the trees, `LiteralTree.ofLiterals` — the tree of a choice.
* `LiteralTree.build` — the part of a machine for a tree.
-/

namespace Casewise.Regex

/-- What follows a beginning of literals: marks where a literal ends and steps to a next byte, in
order. -/
inductive LiteralTree where
  | stop
  | mark (rest : LiteralTree)
  | step (byte : UInt8) (below rest : LiteralTree)

namespace LiteralTree

/-- The tree of one literal. -/
def ofLiteral : List UInt8 → LiteralTree
  | [] => .mark .stop
  | b :: bs => .step b (ofLiteral bs) .stop

def hasMark : LiteralTree → Bool
  | .stop => false
  | .mark _ => true
  | .step _ _ rest => rest.hasMark

/-- Whether no step goes on. -/
def isLeaf : LiteralTree → Bool
  | .stop => true
  | .mark rest => rest.isLeaf
  | .step _ _ _ => false

/-- A tree with a mark behind all steps. -/
def close : LiteralTree → LiteralTree
  | .stop => .mark .stop
  | .mark rest => .mark rest.close
  | .step b below rest => .step b below rest.close

/-- A tree with one literal more, the last of the choice. One that ends where another one did, and
where none goes on, is there already. -/
def add : LiteralTree → List UInt8 → LiteralTree
  | t, [] => if t.isLeaf && t.hasMark then t else t.close
  | .stop, bs => ofLiteral bs
  | .mark rest, bs => .mark (rest.add bs)
  | .step b below rest, c :: cs =>
    if b = c && !rest.hasMark then .step b (below.add cs) rest
    else .step b below (rest.add (c :: cs))

/-- The tree of a choice. -/
def ofLiterals (literals : List (List UInt8)) : LiteralTree := literals.foldl add .stop

/-! ## States -/

/-- The state for a number of steps, and the edge to it. -/
def stepsSize : (steps : Nat) → MachineSize
  | 0 => {}
  | 1 => { states := 1, edges := MachineSize.choiceSize }
  | steps => { states := 1, edges := MachineSize.choiceSize + MachineSize.rangeSize * steps }

/-- The size of what follows a beginning, given the number of steps since the last mark. -/
def sizeFrom : (steps : Nat) → LiteralTree → MachineSize
  | steps, .stop => stepsSize steps
  | steps, .mark rest =>
    let marked := (stepsSize steps).add { edges := MachineSize.choiceSize }
    marked.add (rest.sizeFrom 0)
  | steps, .step _ below rest =>
    let rest := rest.sizeFrom (steps + 1)
    if below.isLeaf then rest else (rest.add (below.sizeFrom 0)).add { states := 1 }

/-- The part of a machine for a tree: a choice for each beginning that goes on, the steps, and one
state in which all literals end. -/
def build (t : LiteralTree) : BuildPart :=
  let size := t.sizeFrom 0
  Build.plain (size.states + 2) size.edges

end LiteralTree

end Casewise.Regex
