/-!
# Symbols

A symbol is an identity with an optional description. Two symbols are equal only if they were
minted together: descriptions do not matter. Symbols come from a `SymbolTable`, which counts the
identities it has issued and remembers the symbol registered for each key.

* `SymbolTable.mint` — a symbol with an identity never issued before.
* `SymbolTable.forKey` — the registered symbol of a key, minted at the first request.

The counter is a 64-bit word, so freshness holds for the first `2 ^ 64` identities.
-/

namespace Casewise

/-- An identity together with a description that plays no part in equality. -/
structure Symbol where
  id : UInt64
  description : Option String

namespace Symbol

/-- Equality by identity. -/
instance : BEq Symbol where
  beq a b := a.id == b.id

instance : EquivBEq Symbol where
  rfl {a} := beq_self_eq_true a.id
  symm {a b} h := (beq_iff_eq.2 (beq_iff_eq.1 h : a.id = b.id).symm : (b.id == a.id) = true)
  trans {a b c} h h' :=
    (beq_iff_eq.2 ((beq_iff_eq.1 h : a.id = b.id).trans (beq_iff_eq.1 h')) : (a.id == c.id) = true)

/-- The description inside `Symbol(…)`. -/
def display (s : Symbol) : String := "Symbol(" ++ s.description.getD "" ++ ")"

/-- The symbol with its identity shown. -/
def inspect (s : Symbol) : String := s.display ++ "#" ++ toString s.id.toNat

end Symbol

/-- The next identity to issue and the symbols registered so far. -/
structure SymbolTable where
  next : UInt64 := 1
  registry : List (String × Symbol) := []

namespace SymbolTable

/-- A fresh symbol. -/
def mint (t : SymbolTable) (description : Option String) : Symbol × SymbolTable :=
  (⟨t.next, description⟩, { t with next := t.next + 1 })

/-- The symbol registered for `key`, if one is. -/
def registered? (t : SymbolTable) (key : String) : Option Symbol := t.registry.lookup key

/-- The symbol registered for `key`; the first request mints it, with the key as description. -/
def forKey (t : SymbolTable) (key : String) : Symbol × SymbolTable :=
  match t.registered? key with
  | some s => (s, t)
  | none =>
    let (s, t) := t.mint (some key)
    (s, { t with registry := t.registry ++ [(key, s)] })

end SymbolTable

end Casewise
