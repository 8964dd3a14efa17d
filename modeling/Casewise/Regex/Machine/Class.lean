import Casewise.Regex.Machine.Size
import Casewise.Unicode.Encoding
import Std.Data.HashMap

/-!
# Classes as parts of a machine

A class of ASCII takes one state with edges and one behind it. The bytes of any other class go
through several states. States that do the same are shared, as far as a table remembers them: what a
state does gives it one of a fixed number of slots, and a new state takes the slot of an older one.

* `Build.charClass` — the part of a machine for a class.
-/

namespace Casewise.Regex

/-- The way in which a machine reads a text. -/
inductive Direction where
  | forward
  | backward
deriving DecidableEq

/-- Parts in the order in which a machine meets them. -/
def Direction.order {α : Type} : Direction → List α → List α
  | .forward, parts => parts
  | .backward, parts => parts.reverse

namespace Build

/-! ## Shared states -/

/-- The states that a table remembers: for a slot, what its state does, spelled as numbers, and the
number of the state. -/
abbrev SharedStates := Std.HashMap Nat (List Nat × Nat)

/-- The slot of what a state does, in a table of some size. -/
def slot (size : Nat) (content : List Nat) : Nat :=
  let mix (h : UInt64) (n : Nat) : UInt64 := (h ^^^ UInt64.ofNat n) * 1099511628211
  (content.foldl mix 14695981039346656037).toNat % size

/-- A state that the table remembers, or a new one with some bytes of edges. -/
def share (size : Nat) (content : List Nat) (edges : Nat) : StateT SharedStates Build Nat := do
  let slot := slot size content
  let new : StateT SharedStates Build Nat := do
    let number ← addState edges
    modify fun shared => shared.insert slot (content, number)
    return number
  match (← get)[slot]? with
  | some (content', number) => if content' = content then return number else new
  | none => new

/-! ## Forward -/

/-- The size of the table of a machine that reads forward. -/
def forwardSlots : Nat := 10000

/-- The first ranges of some patterns, which are in order, each with what follows it. -/
def heads (ps : List BytePattern) : List ((Nat × Nat) × List BytePattern) :=
  (ps.splitBy fun p q => p.head? == q.head?).filterMap fun group => do
    return (← group.head?.bind List.head?, group.map List.tail)

/-- The state that reads some patterns of limited length, given the one behind them. It has an edge
for each first range; the states where these lead come before it. -/
def patternState (last : Nat) : (length : Nat) → List BytePattern → StateT SharedStates Build Nat
  | 0, _ => return last
  | length + 1, ps => do
    if ps.all List.isEmpty then return last
    else
      let edges ← (heads ps).mapM fun (range, tails) => do
        return [range.1, range.2, ← patternState last length tails]
      share forwardSlots edges.flatten (MachineSize.rangeSize * edges.length)

/-! ## Backward -/

/-- The size of the table of a machine that reads backward. -/
def backwardSlots : Nat := 1000

/-- The states that read a pattern from its end, given the one that follows. Each has one range. -/
def reversedStates (next : Nat) : BytePattern → StateT SharedStates Build Nat
  | [] => return next
  | range :: ranges => do
    reversedStates (← share backwardSlots [next, range.1, range.2] 0) ranges

/-! ## Classes -/

/-- A class. Forward it begins with a state that has an edge for each first range, backward with a
choice among the patterns. -/
def charClass (d : Direction) (s : CodeSet) : BuildPart :=
  if s.isAscii then plain 2 (MachineSize.rangeSize * s.ranges.length)
  else
    match d with
    | .forward => do
      let last ← addState
      let _ ← (patternState last 4 s.bytePatterns).run ∅
      return false
    | .backward => do
      addStates 1
      let last ← addState
      let patterns := s.bytePatterns
      let _ ← (patterns.forM fun p => do let _ ← reversedStates last p).run ∅
      addChoices patterns.length
      return false

end Build

end Casewise.Regex
