import Casewise.Regex.Machine.Class
import Casewise.Regex.Machine.Literals
import Casewise.Regex.Resolution

/-!
# Machines for expressions

An expression is matched by a machine that reads bytes, and by one that reads them from the end.
Each must fit into the memory that there is.

* `Plain.build` — the part of a machine for an expression, `Plain.buildMachine` — the whole.
* `Plain.fits` — whether there are machines for an expression.
-/

namespace Casewise.Regex

/-- The end of a text at which a machine begins. -/
def Direction.edge : Direction → Anchor
  | .forward => .textStart
  | .backward => .textEnd

namespace Plain

/-! ## Parts -/

/-- The bytes of a literal. -/
def literal? : Plain → Option (List UInt8)
  | .literal text => some (String.ofList text).toUTF8.toList
  | _ => none

mutual

/-- The part of a machine for an expression. Only a machine that reads forward notes where a match
that is kept begins and ends. -/
def build (d : Direction) : Plain → BuildPart
  | .empty => Build.plain 1
  | .literal text => Build.plain (text.map Char.utf8Size).sum
  | .chars s => Build.charClass d s
  | .anchor _ => Build.plain 1
  | .repetition least most _ r =>
    Build.repetition least most (r.shortest?.any (0 < ·)) (r.build d)
  | .capture _ r =>
    match d with
    | .forward => do
      Build.addStates 1
      Build.link (← r.build d)
      Build.plain 1
    | .backward => r.build d
  | .concat parts => Build.chain (d.order (buildEach d parts))
  | .alternation branches =>
    match branches.mapM literal? with
    | some literals => (LiteralTree.ofLiterals (literals.map d.order)).build
    | none => Build.choice (buildEach d branches)

/-- The parts that the members of a sequence or an alternation build. -/
def buildEach (d : Direction) : List Plain → List BuildPart
  | [] => []
  | r :: rs => r.build d :: buildEach d rs

end

/-! ## Whole machines -/

/-- Whether one of the parts at the beginning of a sequence holds a machine at the end of the text,
given which parts do and which can match the empty text only. -/
def beginsHeld : List (Bool × Bool) → Bool
  | [] => false
  | (held, zeroWidth) :: rest => held || (zeroWidth && beginsHeld rest)

mutual

/-- Whether a match can only begin at the end of the text where a machine begins. -/
def isHeld (d : Direction) : Plain → Bool
  | .empty => false
  | .literal _ => false
  | .chars _ => false
  | .anchor a => a == d.edge
  | .repetition least _ _ r => 0 < least && r.isHeld d
  | .capture _ r => r.isHeld d
  | .concat parts => beginsHeld (d.order (heldParts d parts))
  | .alternation branches => areHeld d branches

/-- Of each member, whether it is held and whether it takes no characters. -/
def heldParts (d : Direction) : List Plain → List (Bool × Bool)
  | [] => []
  | r :: rs => (r.isHeld d, r.isZeroWidth) :: heldParts d rs

/-- Whether all members are held. -/
def areHeld (d : Direction) : List Plain → Bool
  | [] => true
  | r :: rs => r.isHeld d && areHeld d rs

end

/-- A machine: it passes over the bytes in front of a match, unless there can be none, keeps the
match as a whole, and ends in a state of its own. -/
def buildMachine (d : Direction) (r : Plain) : Build Unit := do
  let anyByte := Build.plain 2 MachineSize.rangeSize
  let front := if r.isHeld d then Build.plain 1 else Build.repetition 0 none true anyByte
  Build.link (← front)
  Build.link (← (Plain.capture 0 r).build d)
  Build.addStates 1

/-- The number of literals from which on a choice among them is looked up and needs no machine. -/
def lookupCount : Nat := 3000

/-- Whether an expression is a choice among so many literals that it is looked up. -/
def isLookup : Plain → Bool
  | .alternation branches =>
    lookupCount ≤ branches.length && branches.all fun r => r.literal?.isSome
  | _ => false

/-- Whether there are machines for an expression, if it needs them. -/
def fits (r : Plain) : Bool :=
  r.isLookup || [Direction.forward, .backward].all fun d => (r.buildMachine d {}).isSome

end Plain

end Casewise.Regex
