import Casewise.Pattern.Compiled
import Casewise.Symbol.Session

/-!
# Symbols keep their identity

Whatever a program does with its symbol table, two symbols are equal exactly if they have one
origin: they answer the same request for a fresh symbol, or they stand for the same key.
Descriptions play no part in it. This holds as long as the counter has not come around, that is for
as many symbols as there are 64-bit words.

The proof is an invariant of sessions, in two layers.

* `SymbolSession.Identified` — the counter stands right behind the identities issued so far
  (`next_eq`), what was handed out has one of these (`issued`), and identities tell apart what
  origins do (`id_eq_iff`). Minting keeps it, if the origin of the new symbol is new
  (`SymbolSession.Identified.mint`).
* `SymbolSession.Sound` — what goes back to a request for a fresh symbol is the answer to that
  request (`original`), and the symbol of a key is described by it (`described`). The registry knows
  the keys that were asked for (`registered`), has each of them once (`keys`), and has handed out
  what it holds (`handedOut`). This is why the origin of a symbol that is minted is new, and why a
  symbol that is not minted is one that has been handed out before.

A call keeps the invariant (`SymbolSession.Sound.call`), so it holds all through a session
(`SymbolSession.Sound.callAll`); and a call only adds to what is there (`SymbolSession.Extends`).

* `SymbolSession.symbols_keep_identity` — all of it in one statement.
-/

namespace Casewise

namespace SymbolTable

/-- The identity of the symbol that is minted as number `n`, counted from zero. -/
def issuedId (n : Nat) : UInt64 := UInt64.ofNat (n + 1)

/-- The counter goes on by one. -/
theorem issuedId_add_one (n : Nat) : issuedId n + 1 = issuedId (n + 1) :=
  (UInt64.ofNat_add (n + 1) 1).symm

/-- The counter does not come around before it has issued all words. -/
theorem issuedId_inj {m n : Nat} (hm : m < UInt64.size) (hn : n < UInt64.size)
    (h : issuedId m = issuedId n) : m = n := by
  have hwords := congrArg UInt64.toNat h
  unfold issuedId at hwords
  rw [UInt64.toNat_ofNat', UInt64.toNat_ofNat'] at hwords
  unfold UInt64.size at hm hn
  simp only [Nat.reducePow] at hwords hm hn
  omega

end SymbolTable

namespace SymbolSession

open SymbolTable (issuedId issuedId_add_one issuedId_inj)

variable {s t u : SymbolSession}

/-! ### What a call can do -/

/-- A symbol is handed out another time. -/
def again (s : SymbolSession) (h : HandedOut) : SymbolSession :=
  { s with handedOut := s.handedOut ++ [h] }

/-- A symbol is minted and handed out, and the registry is replaced. -/
def mint (s : SymbolSession) (origin : SymbolOrigin) (description : Option String)
    (registry : List (String × Symbol)) : SymbolSession :=
  ⟨⟨s.table.next + 1, registry⟩, s.handedOut ++ [⟨origin, ⟨s.table.next, description⟩⟩],
    s.minted + 1⟩

/-- The registry with a symbol about to be minted for `key`. -/
def registryWith (s : SymbolSession) (key : String) : List (String × Symbol) :=
  s.table.registry ++ [(key, ⟨s.table.next, some key⟩)]

/-- A request for a fresh symbol mints one, whose origin is the request. -/
theorem call_fresh (s : SymbolSession) (description : Option String) :
    s.call (.fresh description)
      = s.mint (.fresh s.handedOut.length) description s.table.registry := rfl

/-- A key that is registered is answered with its symbol. -/
theorem call_forKey_of_some {key : String} {symbol : Symbol}
    (h : s.table.registered? key = some symbol) :
    s.call (.forKey key) = s.again ⟨.key key, symbol⟩ := by
  have hforKey : s.table.forKey key = (symbol, s.table) := by
    unfold SymbolTable.forKey
    rw [h]
  rw [call, answer?, hforKey, h]
  rfl

/-- For a key that is not registered a symbol is minted and registered. -/
theorem call_forKey_of_none {key : String} (h : s.table.registered? key = none) :
    s.call (.forKey key) = s.mint (.key key) (some key) (s.registryWith key) := by
  have hforKey : s.table.forKey key
      = (⟨s.table.next, some key⟩, ⟨s.table.next + 1, s.registryWith key⟩) := by
    unfold SymbolTable.forKey
    rw [h]
    rfl
  rw [call, answer?, hforKey, h]
  rfl

/-- Copying hands a symbol out again, or does nothing where there is none. -/
theorem call_copy (s : SymbolSession) (place : Nat) :
    s.call (.copy place) = s ∨ ∃ h ∈ s.handedOut, s.call (.copy place) = s.again h := by
  rw [call, answer?]
  cases hplace : s.handedOut[place]? with
  | none =>
    rw [Option.toList_none, List.append_nil]
    exact .inl rfl
  | some h => exact .inr ⟨h, List.mem_of_getElem? hplace, rfl⟩

/-! ### A session only grows -/

/-- What was handed out stays handed out, what is registered stays registered, and nothing is
unminted. -/
structure Extends (s t : SymbolSession) : Prop where
  handedOut : s.handedOut <+: t.handedOut
  registry : s.table.registry <+: t.table.registry
  minted : s.minted ≤ t.minted

theorem Extends.refl (s : SymbolSession) : Extends s s :=
  ⟨List.prefix_rfl, List.prefix_rfl, Nat.le_refl _⟩

theorem Extends.trans (h : Extends s t) (h' : Extends t u) : Extends s u :=
  ⟨h.handedOut.trans h'.handedOut, h.registry.trans h'.registry, Nat.le_trans h.minted h'.minted⟩

theorem extends_again (s : SymbolSession) (h : HandedOut) : Extends s (s.again h) :=
  ⟨List.prefix_append _ _, List.prefix_rfl, Nat.le_refl _⟩

/-- A mint only adds, if the new registry does. -/
theorem extends_mint (s : SymbolSession) (origin : SymbolOrigin) (description : Option String)
    {registry : List (String × Symbol)} (h : s.table.registry <+: registry) :
    Extends s (s.mint origin description registry) :=
  ⟨List.prefix_append _ _, h, Nat.le_succ _⟩

/-- A call only adds to what is there. -/
theorem extends_call (s : SymbolSession) (c : SymbolCall) : Extends s (s.call c) := by
  cases c with
  | fresh description =>
    rw [call_fresh]
    exact extends_mint s _ _ List.prefix_rfl
  | forKey key =>
    cases hkey : s.table.registered? key with
    | some symbol =>
      rw [call_forKey_of_some hkey]
      exact extends_again s _
    | none =>
      rw [call_forKey_of_none hkey]
      exact extends_mint s _ _ (List.prefix_append _ _)
  | copy place =>
    rcases s.call_copy place with hcall | ⟨h, -, hcall⟩
    · rw [hcall]
      exact .refl s
    · rw [hcall]
      exact extends_again s h

/-- So do any number of calls. -/
theorem extends_callAll (s : SymbolSession) (calls : List SymbolCall) :
    Extends s (s.callAll calls) := by
  induction calls generalizing s with
  | nil => exact .refl s
  | cons c calls ih => exact (extends_call s c).trans (ih (s.call c))

/-- A key that is registered keeps its symbol. -/
theorem Extends.registered? (h : Extends s t) {key : String} {symbol : Symbol}
    (hkey : s.table.registered? key = some symbol) : t.table.registered? key = some symbol := by
  obtain ⟨more, hmore⟩ := h.registry
  unfold SymbolTable.registered? at hkey ⊢
  rw [← hmore, List.lookup_append, hkey, Option.some_or]

/-! ### Identities and origins -/

/-- Identities tell apart what origins do. -/
structure Identified (s : SymbolSession) : Prop where
  next_eq : s.table.next = issuedId s.minted
  issued : ∀ h ∈ s.handedOut, ∃ n < s.minted, h.symbol.id = issuedId n
  id_eq_iff : ∀ h ∈ s.handedOut, ∀ h' ∈ s.handedOut,
    h.symbol.id = h'.symbol.id ↔ h.origin = h'.origin

private theorem forall_mem_concat {β : Type} {p : β → Prop} {as : List β} {b : β} :
    (∀ a ∈ as ++ [b], p a) ↔ (∀ a ∈ as, p a) ∧ p b := by
  rw [List.forall_mem_append, List.forall_mem_singleton]

/-- **A minted symbol differs from all others.** -/
theorem Identified.mint (hs : s.Identified) (hbound : s.minted < UInt64.size)
    {origin : SymbolOrigin} (hnew : ∀ h ∈ s.handedOut, h.origin ≠ origin)
    (description : Option String) (registry : List (String × Symbol)) :
    (s.mint origin description registry).Identified := by
  -- the word of the counter has not been issued before, as long as it has not come around
  have hother : ∀ h ∈ s.handedOut, h.symbol.id ≠ s.table.next := by
    intro h hh hid
    obtain ⟨n, hn, hissued⟩ := hs.issued h hh
    rw [hissued, hs.next_eq] at hid
    have hsame : n = s.minted := issuedId_inj (Nat.lt_trans hn hbound) hbound hid
    exact absurd hsame (Nat.ne_of_lt hn)
  refine ⟨?_, ?_, ?_⟩
  -- the counter has moved by one word, as the number of minted symbols has
  · have hnext : s.table.next + 1 = issuedId (s.minted + 1) := by
      rw [hs.next_eq, issuedId_add_one]
    exact hnext
  · refine forall_mem_concat.2 ⟨fun h hh => ?_, s.minted, Nat.lt_succ_self _, hs.next_eq⟩
    obtain ⟨n, hn, hissued⟩ := hs.issued h hh
    exact ⟨n, Nat.lt_succ_of_lt hn, hissued⟩
  · refine forall_mem_concat.2 ⟨fun h hh => forall_mem_concat.2 ⟨hs.id_eq_iff h hh, ?_⟩,
      forall_mem_concat.2 ⟨fun h hh => ?_, iff_of_true rfl rfl⟩⟩
    · exact iff_of_false (hother h hh) (hnew h hh)
    · exact iff_of_false (hother h hh).symm (hnew h hh).symm

/-! ### The registry -/

/-- The invariant of sessions. -/
structure Sound (s : SymbolSession) : Prop extends Identified s where
  original : ∀ h ∈ s.handedOut, ∀ place, h.origin = .fresh place → s.handedOut[place]? = some h
  registered : ∀ h ∈ s.handedOut, ∀ key, h.origin = .key key → s.table.registered? key ≠ none
  described : ∀ h ∈ s.handedOut, ∀ key, h.origin = .key key → h.symbol.description = some key
  handedOut : ∀ e ∈ s.table.registry, ⟨.key e.1, e.2⟩ ∈ s.handedOut
  keys : s.table.registry.Pairwise fun e e' => e.1 ≠ e'.1

/-- At first nothing has been handed out, so there is nothing to violate. -/
theorem sound_empty : Sound {} where
  next_eq := rfl
  issued := List.forall_mem_nil _
  id_eq_iff := List.forall_mem_nil _
  original := List.forall_mem_nil _
  registered := List.forall_mem_nil _
  described := List.forall_mem_nil _
  handedOut := List.forall_mem_nil _
  keys := List.Pairwise.nil

private theorem getElem?_concat_of_some {β : Type} {as : List β} {i : Nat} {a : β}
    (h : as[i]? = some a) (b : β) : (as ++ [b])[i]? = some a := by
  obtain ⟨hi, -⟩ := List.getElem?_eq_some_iff.1 h
  rw [List.getElem?_append_left hi, h]

/-- What has been handed out may be handed out another time. -/
theorem Sound.again (hs : s.Sound) {h : HandedOut} (hh : h ∈ s.handedOut) : (s.again h).Sound := by
  -- nothing is handed out that was not before
  have hold : ∀ {h' : HandedOut}, h' ∈ s.handedOut ++ [h] → h' ∈ s.handedOut := by
    intro h' hh'
    rcases List.mem_append.1 hh' with hh' | hh'
    · exact hh'
    · rw [List.mem_singleton.1 hh']
      exact hh
  refine ⟨⟨hs.next_eq, fun h' hh' => hs.issued h' (hold hh'),
    fun h' hh' h'' hh'' => hs.id_eq_iff h' (hold hh') h'' (hold hh'')⟩, ?_,
    fun h' hh' => hs.registered h' (hold hh'), fun h' hh' => hs.described h' (hold hh'),
    fun e he => List.mem_append_left _ (hs.handedOut e he), hs.keys⟩
  intro h' hh' place horigin
  exact getElem?_concat_of_some (hs.original h' (hold hh') place horigin) h

/-- A fresh symbol has the next place for its origin, which nothing before it can have. -/
theorem Sound.fresh (hs : s.Sound) (hbound : s.minted < UInt64.size)
    (description : Option String) :
    (s.mint (.fresh s.handedOut.length) description s.table.registry).Sound := by
  -- the place is behind all that is there, and origins are places that are taken
  have hnew : ∀ h ∈ s.handedOut, h.origin ≠ .fresh s.handedOut.length := by
    intro h hh horigin
    have hplace := hs.original h hh _ horigin
    rw [List.getElem?_eq_none (Nat.le_refl _)] at hplace
    cases hplace
  -- of the registry nothing changes, and the new symbol is that of no key
  refine ⟨hs.toIdentified.mint hbound hnew _ _, ?_, ?_, ?_, ?_, hs.keys⟩
  · refine forall_mem_concat.2 ⟨fun h hh place horigin => ?_, ?_⟩
    · exact getElem?_concat_of_some (hs.original h hh place horigin) _
    · rintro place ⟨⟩
      exact List.getElem?_concat_length
  · exact forall_mem_concat.2 ⟨hs.registered, fun _ horigin => nomatch horigin⟩
  · exact forall_mem_concat.2 ⟨hs.described, fun _ horigin => nomatch horigin⟩
  · exact fun e he => List.mem_append_left _ (hs.handedOut e he)

/-- A symbol is registered for a key that no symbol has been handed out for. -/
theorem Sound.register (hs : s.Sound) (hbound : s.minted < UInt64.size) {key : String}
    (hkey : s.table.registered? key = none) :
    (s.mint (.key key) (some key) (s.registryWith key)).Sound := by
  -- a symbol with this key for its origin would have been registered
  have hnew : ∀ h ∈ s.handedOut, h.origin ≠ .key key :=
    fun h hh horigin => hs.registered h hh key horigin hkey
  -- the new entry is found only where nothing was found before
  have hlookup : ∀ key', (s.registryWith key).lookup key'
      = (s.table.registered? key').or ([(key, ⟨s.table.next, some key⟩)].lookup key') :=
    fun _ => List.lookup_append
  refine ⟨hs.toIdentified.mint hbound hnew _ _, ?_, ?_, ?_, ?_, ?_⟩
  · refine forall_mem_concat.2 ⟨fun h hh place horigin => ?_, fun _ horigin => nomatch horigin⟩
    exact getElem?_concat_of_some (hs.original h hh place horigin) _
  · refine forall_mem_concat.2 ⟨fun h hh key' horigin => ?_, ?_⟩
    · obtain ⟨symbol, hsymbol⟩ := Option.ne_none_iff_exists'.1 (hs.registered h hh key' horigin)
      have hkept : (s.registryWith key).lookup key' = some symbol := by
        rw [hlookup, hsymbol, Option.some_or]
      exact Option.ne_none_iff_exists'.2 ⟨symbol, hkept⟩
    · rintro key' ⟨⟩
      have hadded : (s.registryWith key).lookup key = some ⟨s.table.next, some key⟩ := by
        rw [hlookup, hkey, Option.none_or, List.lookup_cons_self]
      exact Option.ne_none_iff_exists'.2 ⟨_, hadded⟩
  · refine forall_mem_concat.2 ⟨hs.described, ?_⟩
    rintro key' ⟨⟩
    rfl
  · refine forall_mem_concat.2 ⟨fun e he => List.mem_append_left _ (hs.handedOut e he), ?_⟩
    exact List.mem_append_right _ (List.mem_singleton.2 rfl)
  · refine List.pairwise_append.2 ⟨hs.keys, List.pairwise_singleton _ _, fun e he => ?_⟩
    refine List.forall_mem_singleton.2 fun hsame => ?_
    -- the key would have been registered
    have hother := List.lookup_eq_none_iff.1 hkey e he
    rw [hsame] at hother
    simp at hother

/-! ### Steps and runs -/

/-- **A call keeps the invariant,** if there are words enough. -/
theorem Sound.call (hs : s.Sound) (c : SymbolCall)
    (hbound : (s.call c).minted ≤ UInt64.size) : (s.call c).Sound := by
  cases c with
  | fresh description =>
    rw [call_fresh] at hbound ⊢
    exact hs.fresh hbound description
  | forKey key =>
    cases hkey : s.table.registered? key with
    | some symbol =>
      -- the symbol of a registered key has been handed out when it was registered
      obtain ⟨front, back, hregistry, -⟩ := List.lookup_eq_some_iff.1 hkey
      have hmem : (key, symbol) ∈ s.table.registry := by
        rw [hregistry]
        exact List.mem_append_right _ List.mem_cons_self
      rw [call_forKey_of_some hkey]
      exact hs.again (hs.handedOut _ hmem)
    | none =>
      rw [call_forKey_of_none hkey] at hbound ⊢
      exact hs.register hbound hkey
  | copy place =>
    rcases s.call_copy place with hcall | ⟨h, hh, hcall⟩
    · rw [hcall]
      exact hs
    · rw [hcall]
      exact hs.again hh

/-- **The invariant holds all through a session.** -/
theorem Sound.callAll (hs : s.Sound) {calls : List SymbolCall}
    (hbound : (s.callAll calls).minted ≤ UInt64.size) : (s.callAll calls).Sound := by
  induction calls generalizing s with
  | nil => exact hs
  | cons c calls ih =>
    have hstep : (s.call c).minted ≤ UInt64.size :=
      Nat.le_trans (extends_callAll (s.call c) calls).minted hbound
    exact ih (hs.call c hstep) hbound

/-- A call mints a symbol if it asks for a fresh one or adds to the registry. -/
theorem minted_call (s : SymbolSession) (c : SymbolCall) :
    (s.call c).minted + s.table.registry.length
      = s.minted + (if c.isFresh then 1 else 0) + (s.call c).table.registry.length := by
  cases c with
  | fresh description =>
    rw [call_fresh]
    rfl
  | forKey key =>
    cases hkey : s.table.registered? key with
    | some symbol =>
      rw [call_forKey_of_some hkey]
      rfl
    | none =>
      -- one more symbol and one more entry
      have hlength : (s.registryWith key).length = s.table.registry.length + 1 :=
        List.length_append
      rw [call_forKey_of_none hkey]
      unfold SymbolSession.mint
      rw [hlength]
      exact Nat.add_right_comm _ _ _
  | copy place =>
    rcases s.call_copy place with hcall | ⟨h, -, hcall⟩
    · rw [hcall]
      rfl
    · rw [hcall]
      rfl

/-- A symbol is minted for each request of a fresh one and for each key that is registered. -/
theorem minted_callAll (s : SymbolSession) (calls : List SymbolCall) :
    (s.callAll calls).minted + s.table.registry.length
      = s.minted + calls.countP SymbolCall.isFresh + (s.callAll calls).table.registry.length := by
  induction calls generalizing s with
  | nil => rfl
  | cons c calls ih =>
    have hrest := ih (s.call c)
    have hfirst := minted_call s c
    rw [List.countP_cons]
    change ((s.call c).callAll calls).minted + _
      = _ + _ + ((s.call c).callAll calls).table.registry.length
    omega

/-! ### Whole sessions -/

/-- A session goes on from where it stands. -/
theorem run_append (calls more : List SymbolCall) :
    run (calls ++ more) = (run calls).callAll more := List.foldl_append

/-- A session has all that it had at an earlier point. -/
theorem extends_run {before calls : List SymbolCall} (h : before <+: calls) :
    Extends (run before) (run calls) := by
  obtain ⟨after, rfl⟩ := h
  rw [run_append]
  exact extends_callAll _ _

/-- What a call was answered with has been handed out. -/
theorem mem_handedOut_of_answer? {before calls : List SymbolCall} {c : SymbolCall} {h : HandedOut}
    (hcalls : before ++ [c] <+: calls) (hanswer : (run before).answer? c = some h) :
    h ∈ (run calls).handedOut := by
  refine (extends_run hcalls).handedOut.subset ?_
  rw [run_append]
  have hcall : ((run before).call c).handedOut = (run before).handedOut ++ [h] := by
    dsimp only [call]
    rw [hanswer, Option.toList_some]
  change h ∈ ((run before).call c).handedOut
  rw [hcall]
  exact List.mem_append_right _ (List.mem_singleton.2 rfl)

/-- A registry has each key once, and its symbols have identities of their own. -/
theorem Sound.pairwise_ne (hs : s.Sound) :
    s.table.registry.Pairwise fun e e' => e.1 ≠ e'.1 ∧ e.2.id ≠ e'.2.id := by
  refine hs.keys.imp_of_mem fun {e e'} he he' hne => ⟨hne, fun hid => hne ?_⟩
  -- one identity means one origin, and the origins are the keys
  have horigin := (hs.id_eq_iff _ (hs.handedOut e he) _ (hs.handedOut e' he')).1 hid
  exact SymbolOrigin.key.inj horigin

/-- Equality of what was handed out is read off the origins. -/
theorem Sound.beq_eq (hs : s.Sound) {h h' : HandedOut} (hh : h ∈ s.handedOut)
    (hh' : h' ∈ s.handedOut) : (h.symbol == h'.symbol) = decide (h.origin = h'.origin) := by
  rw [Bool.eq_iff_iff, decide_eq_true_eq, ← hs.id_eq_iff h hh h' hh']
  exact (beq_iff_eq : (h.symbol.id == h'.symbol.id) = true ↔ _)

/-- **Symbols keep their identity over whole sessions.** Let a program make any calls, as long as no
more symbols have to be minted for it than there are 64-bit words: one for each request of a fresh
symbol, and one for each key.

Every answer is handed out with its origin, and two symbols are equal exactly if they have one
origin. So symbols of keys are equal if the keys are, and a fresh symbol is equal to its copies and
to nothing else, whatever the descriptions. The symbol of a key is described by it.

At every point each key is registered once, the registered symbols have identities that the counter
has issued, no two of them the same, and later calls replace none of them.

Literals and keys of properties go by the same rule. -/
theorem symbols_keep_identity {ε : Type} (calls : List SymbolCall)
    (hbound : (run calls).minted ≤ UInt64.size) :
    (run calls).minted
      = calls.countP SymbolCall.isFresh + (run calls).table.registry.length ∧
    (∀ before c h, before ++ [c] <+: calls → (run before).answer? c = some h →
      h ∈ (run calls).handedOut) ∧
    (∀ h ∈ (run calls).handedOut, ∀ h' ∈ (run calls).handedOut,
      (h.symbol == h'.symbol) = decide (h.origin = h'.origin)) ∧
    (∀ h ∈ (run calls).handedOut, ∀ place, h.origin = .fresh place →
      (run calls).handedOut[place]? = some h) ∧
    (∀ h ∈ (run calls).handedOut, ∀ key, h.origin = .key key →
      h.symbol.description = some key) ∧
    (∀ before, before <+: calls →
      (run before).table.next = issuedId (run before).minted ∧
      (∀ e ∈ (run before).table.registry, ∃ n < (run before).minted, e.2.id = issuedId n) ∧
      ((run before).table.registry.Pairwise fun e e' => e.1 ≠ e'.1 ∧ e.2.id ≠ e'.2.id) ∧
      ∀ key symbol, (run before).table.registered? key = some symbol →
        (run calls).table.registered? key = some symbol) ∧
    (∀ h ∈ (run calls).handedOut, ∀ h' ∈ (run calls).handedOut,
      (∀ o : MatchOptions,
        ((Pattern.literal (.symbol h.symbol)).compile o).accepts (.symbol h'.symbol)
          = (pure (decide (h.origin = h'.origin)) : Traced ε Bool)) ∧
      ∀ (r : Record Value) (v : Value),
        (r.insert (.symbol h.symbol) v).get? (.symbol h'.symbol)
          = if h.origin = h'.origin then some v else r.get? (.symbol h'.symbol)) := by
  have hsound : (run calls).Sound := sound_empty.callAll hbound
  refine ⟨?_, fun before c h => mem_handedOut_of_answer?,
    fun h hh h' hh' => hsound.beq_eq hh hh', hsound.original, hsound.described, ?_, ?_⟩
  · have hminted := minted_callAll {} calls
    rw [List.length_nil, Nat.add_zero, Nat.zero_add] at hminted
    exact hminted
  · intro before hbefore
    -- what is true of whole sessions is true up to every point
    have hbound' : (run before).minted ≤ UInt64.size :=
      Nat.le_trans (extends_run hbefore).minted hbound
    have hsound' : (run before).Sound := sound_empty.callAll hbound'
    refine ⟨hsound'.next_eq, fun e he => hsound'.issued _ (hsound'.handedOut e he),
      hsound'.pairwise_ne, fun key symbol => (extends_run hbefore).registered?⟩
  · intro h hh h' hh'
    have hbeq := hsound.beq_eq hh hh'
    refine ⟨fun o => ?_, fun r v => ?_⟩
    · rw [← hbeq]
      rfl
    -- a property is looked up by comparing keys, which compares symbols
    · have hkey : (PropertyKey.symbol h.symbol == .symbol h'.symbol)
          = decide (h.origin = h'.origin) := hbeq
      unfold Record.insert Record.get?
      rw [OrderedMap.get?_insert, hkey]
      by_cases horigin : h.origin = h'.origin
      · rw [decide_eq_true horigin, if_pos rfl, if_pos horigin]
      · rw [decide_eq_false horigin, if_neg Bool.false_ne_true, if_neg horigin]

/-- Two fresh symbols and the symbol of a key have one description, and are three symbols. A copy of
the first one is equal to it. -/
theorem symbols_keep_identity_of_one_description :
    let calls : List SymbolCall :=
      [.fresh (some "k"), .forKey "k", .copy 0, .fresh (some "k"), .forKey "k", .copy 7]
    let first : HandedOut := ⟨.fresh 0, ⟨1, some "k"⟩⟩
    let keyed : HandedOut := ⟨.key "k", ⟨2, some "k"⟩⟩
    let second : HandedOut := ⟨.fresh 3, ⟨3, some "k"⟩⟩
    (run calls).handedOut = [first, keyed, first, second, keyed] ∧
      (first.symbol == keyed.symbol) = false ∧ (first.symbol == second.symbol) = false ∧
      ((Pattern.literal (.symbol first.symbol)).compile {}).accepts (.symbol keyed.symbol)
        = (pure false : Traced Unit Bool) := by
  intro calls first keyed second
  have hhandedOut : (run calls).handedOut = [first, keyed, first, second, keyed] := rfl
  have hbound : (run calls).minted ≤ UInt64.size := by decide
  obtain ⟨-, -, hbeq, -, -, -, hmatch⟩ := symbols_keep_identity (ε := Unit) calls hbound
  have hfirst : first ∈ (run calls).handedOut := by simp [hhandedOut]
  have hkeyed : keyed ∈ (run calls).handedOut := by simp [hhandedOut]
  have hsecond : second ∈ (run calls).handedOut := by simp [hhandedOut]
  exact ⟨hhandedOut, hbeq first hfirst keyed hkeyed, hbeq first hfirst second hsecond,
    (hmatch first hfirst keyed hkeyed).1 {}⟩

end SymbolSession

end Casewise
