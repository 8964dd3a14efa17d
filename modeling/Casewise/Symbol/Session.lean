import Casewise.Symbol

/-!
# Sessions

A program asks its symbol table for fresh symbols and for the symbols of keys, and copies the
symbols that it has, in any order and from any number of places. Each call is answered before the
next one is looked at, so what happens is a list of calls.

* `SymbolCall` — the calls.
* `SymbolSession` — the table together with the symbols that it has handed out.
* `SymbolSession.answer?`, `SymbolSession.call` — the answer to a call, and what is changed by it.
* `SymbolSession.run` — a session from its beginning.

Next to a symbol stands its origin, which says without regard to identities what the symbol goes
back to: the request for a fresh symbol that it was the answer to, or its key. A copy has the origin
of what it is a copy of.
-/

namespace Casewise

/-- What a program may do with symbols. -/
inductive SymbolCall where
  | fresh (description : Option String)
  | forKey (key : String)
  /-- copy the symbol that was handed out at this place -/
  | copy (place : Nat)

def SymbolCall.isFresh : SymbolCall → Bool
  | .fresh _ => true
  | _ => false

/-- What a symbol goes back to. -/
inductive SymbolOrigin where
  /-- the request for a fresh symbol that was answered at this place -/
  | fresh (place : Nat)
  | key (key : String)
deriving DecidableEq

/-- A symbol that was handed out. -/
structure HandedOut where
  origin : SymbolOrigin
  symbol : Symbol

/-- The table, what it has handed out so far, and how many symbols had to be minted for that. -/
structure SymbolSession where
  table : SymbolTable := {}
  handedOut : List HandedOut := []
  minted : Nat := 0

namespace SymbolSession

/-- The answer to a call. There is nothing to copy at a place that nothing was handed out at. -/
def answer? (s : SymbolSession) : SymbolCall → Option HandedOut
  | .fresh description => some ⟨.fresh s.handedOut.length, (s.table.mint description).1⟩
  | .forKey key => some ⟨.key key, (s.table.forKey key).1⟩
  | .copy place => s.handedOut[place]?

/-- The session after a call. A symbol is minted for every request of a fresh one, and for a key at
its first request. -/
def call (s : SymbolSession) (c : SymbolCall) : SymbolSession where
  table :=
    match c with
    | .fresh description => (s.table.mint description).2
    | .forKey key => (s.table.forKey key).2
    | .copy _ => s.table
  handedOut := s.handedOut ++ (s.answer? c).toList
  minted :=
    match c with
    | .fresh _ => s.minted + 1
    | .forKey key => if (s.table.registered? key).isSome then s.minted else s.minted + 1
    | .copy _ => s.minted

/-- The session after these calls. -/
def callAll (s : SymbolSession) (calls : List SymbolCall) : SymbolSession := calls.foldl call s

/-- A session of these calls, with a table that is empty at first. -/
def run (calls : List SymbolCall) : SymbolSession := callAll {} calls

end SymbolSession

end Casewise
