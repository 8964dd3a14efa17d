/-!
# The size of a machine

A machine that matches an expression consists of states, each with its number. A state for one byte
or for an assertion is of a fixed size; other states take more for the edges that leave them. A
machine is built state by state and must stay within a limit. Where one part follows another, the
first may end in a choice, which then takes an edge more.

* `MachineSize` — what a machine takes, `Build` — a step of building one.
* `Build.addStates`, `Build.link` — the steps.
* `Build.chain`, `Build.times`, `Build.repetition`, `Build.choice` — parts from parts.
-/

namespace Casewise.Regex

/-- The states of a machine and the bytes of their edges. -/
structure MachineSize where
  states : Nat := 0
  edges : Nat := 0
deriving DecidableEq

namespace MachineSize

/-- The bytes of a state. -/
def stateSize : Nat := 32

/-- The bytes of an edge for a range of bytes. -/
def rangeSize : Nat := 8

/-- The bytes of an edge of a choice. -/
def choiceSize : Nat := 4

def add (m n : MachineSize) : MachineSize :=
  { states := m.states + n.states, edges := m.edges + n.edges }

def bytes (m : MachineSize) : Nat := stateSize * m.states + m.edges

/-- The most bytes of a machine. -/
def limit : Nat := 10 <<< 20

end MachineSize

/-- A step of building a machine. It fails beyond the limit. -/
abbrev Build := StateT MachineSize Option

/-- A part of a machine. Its result is whether it ends in a choice. -/
abbrev BuildPart := Build Bool

namespace Build

/-- States, and the bytes of their edges. -/
def addStates (count : Nat) (edges : Nat := 0) : Build Unit := fun m =>
  let m : MachineSize := { states := m.states + count, edges := m.edges + edges }
  if m.bytes ≤ MachineSize.limit then some ((), m) else none

/-- Edges of a choice. -/
def addChoices (count : Nat) : Build Unit := addStates 0 (MachineSize.choiceSize * count)

/-- What is put behind a part, given whether that ends in a choice. -/
def link (isChoice : Bool) : Build Unit := addChoices (if isChoice then 1 else 0)

/-- One state, by its number. -/
def addState (edges : Nat := 0) : Build Nat := do
  let m ← get
  addStates 1 edges
  return m.states

/-- States one after another that end in no choice. -/
def plain (count : Nat) (edges : Nat := 0) : BuildPart := do
  addStates count edges
  return false

/-- Parts one after another, behind one that ends in a choice or not. -/
def chainFrom (isChoice : Bool) : List BuildPart → BuildPart
  | [] => return isChoice
  | part :: parts => do
    link isChoice
    chainFrom (← part) parts

/-- Parts one after another. -/
def chain : List BuildPart → BuildPart
  | [] => plain 1
  | part :: parts => do chainFrom (← part) parts

/-- A part a number of times, behind one that ends in a choice or not. -/
def timesFrom (part : BuildPart) : Nat → (isChoice : Bool) → BuildPart
  | 0, isChoice => return isChoice
  | n + 1, isChoice => do
    link isChoice
    timesFrom part n (← part)

/-- A part a number of times. -/
def times (part : BuildPart) : Nat → BuildPart
  | 0 => plain 1
  | n + 1 => do timesFrom part n (← part)

/-- A part up to a number of times, each time with a choice in front to leave it out and all that
follow. -/
def optionalFrom (part : BuildPart) : Nat → (isChoice : Bool) → BuildPart
  | 0, isChoice => return isChoice
  | n + 1, isChoice => do
    addStates 1
    link isChoice
    addChoices 2
    optionalFrom part n (← part)

/-- A part with a choice behind it to go back. -/
def again (part : BuildPart) : BuildPart := do
  link (← part)
  addStates 1
  addChoices 1
  return true

/-- A part at least `least` times and at most `most` times, if that is given; `advances` tells
whether it never matches the empty text. One that may must not be gone through in vain. -/
def repetition (least : Nat) (most : Option Nat) (advances : Bool) (part : BuildPart) :
    BuildPart :=
  match least, most with
  | 0, none =>
    if advances then do
      addStates 1
      link (← part)
      addChoices 1
      return true
    else do
      link (← part)
      addStates 3
      addChoices 4
      return false
  | 1, none => again part
  | n + 2, none => do
    link (← times part (n + 1))
    again part
  | 0, some 1 => do
    addStates 1
    link (← part)
    addStates 1
    addChoices 2
    return false
  | least, some most => do
    let isChoice ← times part least
    if least = most then return isChoice
    else
      addStates 1
      link (← optionalFrom part (most - least) isChoice)
      return false

/-- The branches of a choice behind the second. -/
def furtherBranches : List BuildPart → Build Unit
  | [] => return
  | part :: parts => do
    link (← part)
    addChoices 1
    furtherBranches parts

/-- A choice among parts. The choice and the state where they meet come behind the second. -/
def choice : List BuildPart → BuildPart
  | [] => plain 1
  | [part] => part
  | part :: part' :: parts => do
    let isChoice ← part
    let isChoice' ← part'
    addStates 2
    link isChoice
    link isChoice'
    addChoices 2
    furtherBranches parts
    return false

end Build

end Casewise.Regex
