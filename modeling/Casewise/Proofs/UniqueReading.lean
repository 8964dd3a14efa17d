import Casewise.Proofs.Delimiters
import Casewise.Proofs.EqualityLaws
import Casewise.Proofs.WholeNumbers
import Casewise.Rules
import Casewise.Value.Display

/-!
# Renderings of data can be read in one way only

The message about an input that no clause covers shows the input as it is rendered, so what the
message is worth depends on whether the input can be told from its rendering. Of data values it can,
up to the sign of zeros.

A rendering is read from its first character on, which announces the kind of the value
(`Value.exists_display_eq_cons`); the two sorts of integers alone are told apart by what is behind
the digits. The invariant that carries the induction is about renderings with something behind them:
if one is read up to a place where an entry of a list may end, then the other one ends there too
(`Value.ReadsFromLeft`). An array and an object have the invariant since each of their entries
ends in front of a separator or of the bracket.

* `Value.readsFromLeft_of_isData` — renderings of data can be read from the left;
* `Value.display_unsignZeros` — the sign of zeros is not shown;
* `Value.equals_of_unsignZeros_eq` — values that differ in the sign of zeros only are equal;
* `Value.display_is_unambiguous` — renderings, and so messages, tell data values apart.
-/

namespace Casewise

/-! ### Renderings of numbers -/

namespace Binary64

/-- What denotes an integer is finite. -/
theorem isFinite_of_toInt? {x : Binary64} {n : Int} (h : x.toInt? = some n) :
    x.isFinite = true := by
  unfold toInt? at h
  cases hfinite : x.isFinite with
  | true => rfl
  | false => simp [hfinite] at h

/-- An integer below `10 ^ 21` is written digit for digit. -/
theorem plain_eq {x : Binary64} {n : Int} (hx : x.toInt? = some n)
    (hn : n.natAbs < 1000000000000000000000) : x.plain = toString n := by
  have hfinite : x.isFinite = true := isFinite_of_toInt? hx
  have hnan : x.isNaN = false := isNaN_of_isFinite hfinite
  have hinfinite : x.isInfinite = false := by
    unfold isFinite at hfinite
    unfold isInfinite
    rw [decide_eq_true_eq] at hfinite
    exact beq_eq_false_iff_ne.2 (Nat.ne_of_lt hfinite)
  unfold plain
  rw [if_neg (Bool.eq_false_iff.1 hnan), if_neg (Bool.eq_false_iff.1 hinfinite), hx]
  exact if_pos hn

/-- Both zeros denote the integer zero. -/
theorem toInt?_of_isZero {x : Binary64} (h : x.isZero = true) : x.toInt? = some 0 := by
  have hmagnitude : x.magnitude = 0 := beq_iff_eq.1 h
  simp [toInt?, isFinite, exponent, significand, exponentField, fraction, hmagnitude]

/-- The two zeros are written alike. -/
theorem plain_unsignZero (x : Binary64) : x.unsignZero.plain = x.plain := by
  unfold unsignZero
  split
  · next h =>
    have hzero : zero.toInt? = some 0 := toInt?_of_isZero rfl
    rw [plain_eq (toInt?_of_isZero h) (by decide), plain_eq hzero (by decide)]
  · rfl

/-- Numbers that differ in the sign of a zero at most are equal. -/
theorem equals_of_unsignZero_eq {x y : Binary64} (hx : x.isNaN = false) (hy : y.isNaN = false)
    (h : x.unsignZero = y.unsignZero) : x.equals y = true := by
  have horder : ∀ z : Binary64, z.unsignZero.order = z.order := by
    intro z
    unfold unsignZero
    split
    · next hzero =>
      have hmagnitude : z.magnitude = 0 := beq_iff_eq.1 hzero
      unfold order
      rw [hmagnitude]
      cases z.negative <;> rfl
    · rfl
  have hsame : x.order = y.order := by rw [← horder x, ← horder y, h]
  unfold equals
  rw [hx, hy, hsame]
  exact beq_self_eq_true y.order

end Binary64

/-! ### What the first character announces -/

/-- The kind that the first character of a rendering announces; integers of both sorts begin like
numbers. -/
def Kind.announcedBy (c : Char) : Option Kind :=
  if c.isDigit ∨ c = '-' then some .number
  else match c with
    | 'u' => some .undefined
    | 'n' => some .null
    | 't' => some .bool
    | 'f' => some .bool
    | '"' => some .string
    | '[' => some .array
    | '\x7b' => some .object
    | _ => none

namespace Value

/-- The kind that is announced: a big integer is not announced as such. -/
def announced : Value → Kind
  | .bigint _ => .number
  | v => v.kind

/-- Items are rendered one by one. -/
theorem displayItems_eq_map (vs : List Value) : displayItems vs = vs.map display := by
  induction vs with
  | nil => rfl
  | cons v vs ih => rw [displayItems, ih, List.map_cons]

/-- What stands for a property. -/
def displayEntry (e : PropertyKey × Value) : String := e.1.display ++ ": " ++ e.2.display

/-- Properties are rendered one by one. -/
theorem displayProps_eq_map (ps : List (PropertyKey × Value)) :
    displayProps ps = ps.map displayEntry := by
  induction ps with
  | nil => rfl
  | cons e ps ih => rw [displayProps, ih, List.map_cons, displayEntry]

/-- The entries between brackets or braces, as they stand there. -/
def separated (texts : List String) : List Char :=
  [',', ' '].intercalate (texts.map String.toList)

/-- An array has its items between brackets. -/
theorem display_array_append (vs : List Value) (t : List Char) :
    (array vs).display.toList ++ t = '[' :: (separated (vs.map display) ++ ']' :: t) := by
  rw [display, displayItems_eq_map, String.toList_append, String.toList_append,
    String.toList_intercalate, List.append_assoc]
  rfl

/-- The braces of an object without properties have nothing between them. -/
theorem display_object_nil_append (t : List Char) :
    (object ⟨none, []⟩).display.toList ++ t = '\x7b' :: '\x7d' :: t := rfl

/-- An object with properties has them between braces and spaces. -/
theorem display_object_append {ps : List (PropertyKey × Value)} (hne : ps ≠ []) (t : List Char) :
    (object ⟨none, ps⟩).display.toList ++ t
      = '\x7b' :: ' ' :: (separated (ps.map displayEntry) ++ ' ' :: '\x7d' :: t) := by
  have hsome : (ps.map displayEntry).isEmpty = false := by
    rw [List.isEmpty_map, List.isEmpty_eq_false_iff]
    exact hne
  rw [display, displayRecord, displayProps_eq_map, String.toList_append, braced, hsome,
    if_neg Bool.false_ne_true, String.toList_append, String.toList_append,
    String.toList_intercalate]
  simp only [List.append_assoc]
  rfl

/-- A rendering has a first character, which announces the kind of the value. -/
theorem exists_display_eq_cons {v : Value} (hv : IsData v) :
    ∃ c cs, v.display.toList = c :: cs ∧ Kind.announcedBy c = some v.announced := by
  have hinteger : ∀ n : Int, ∃ c cs, (toString n).toList = c :: cs ∧
      Kind.announcedBy c = some .number := by
    intro n
    obtain ⟨c, cs, hcs, hc⟩ := Numeral.exists_toString_eq_cons n
    exact ⟨c, cs, hcs, if_pos hc⟩
  cases hv with
  | undefined => exact ⟨'u', "ndefined".toList, by decide, rfl⟩
  | null => exact ⟨'n', "ull".toList, by decide, rfl⟩
  | bool b =>
    cases b with
    | true => exact ⟨'t', "rue".toList, by decide, rfl⟩
    | false => exact ⟨'f', "alse".toList, by decide, rfl⟩
  | @number x n hx hn =>
    rw [display, Binary64.plain_eq hx hn]
    exact hinteger n
  | bigint n =>
    obtain ⟨c, cs, hcs, hc⟩ := hinteger n
    refine ⟨c, cs ++ ['n'], ?_, hc⟩
    rw [display, String.toList_append, hcs]
    rfl
  | string s => exact ⟨'"', _, by rw [display, Quoted.encode, String.toList_ofList]; rfl, rfl⟩
  | @array vs _ =>
    have htext := display_array_append vs []
    rw [List.append_nil] at htext
    exact ⟨'[', _, htext, rfl⟩
  | @object ps _ _ =>
    by_cases hps : ps = []
    · subst hps
      exact ⟨'\x7b', ['\x7d'], rfl, rfl⟩
    · have htext := display_object_append hps []
      rw [List.append_nil] at htext
      exact ⟨'\x7b', _, htext, rfl⟩

/-- Renderings that begin alike announce one kind. -/
theorem announced_eq {v w : Value} (hv : IsData v) (hw : IsData w) {r s : List Char}
    (h : v.display.toList ++ r = w.display.toList ++ s) : v.announced = w.announced := by
  obtain ⟨c, cs, hcs, hc⟩ := exists_display_eq_cons hv
  obtain ⟨d, ds, hds, hd⟩ := exists_display_eq_cons hw
  rw [hcs, hds] at h
  rw [(List.cons.inj h).1, hd] at hc
  exact (Option.some.inj hc).symm

/-! ### Reading from the left -/

/-- A name in front of a colon can be read. -/
theorem name_append_inj {a b : String} (ha : PlainName a) (hb : PlainName b) {r s : List Char}
    (h : a.toList ++ ':' :: r = b.toList ++ ':' :: s) : a = b ∧ r = s := by
  have hcolon : ∀ {t : List Char} (c : Char), (':' :: t).head? = some c →
      (c.isAlphanum || c == '_') = false := by
    rintro t c ⟨⟩
    rfl
  have hname : ∀ {a : String}, PlainName a → ∀ c ∈ a.toList, (c.isAlphanum || c == '_') = true := by
    intro a ha c hc
    rw [Bool.or_eq_true, beq_iff_eq]
    exact ha.2 c hc
  obtain ⟨hsame, hrest⟩ := run_append_inj (hname ha) (hname hb) hcolon hcolon h
  exact ⟨String.toList_inj.1 hsame, (List.cons.inj hrest).2⟩

/-- An entry can be read if the value in it can. -/
theorem displayEntry_append_inj {e f : PropertyKey × Value}
    (he : ∃ name, e.1 = .string name ∧ PlainName name)
    (hf : ∃ name, f.1 = .string name ∧ PlainName name) {r s : List Char}
    (h : (displayEntry e).toList ++ r = (displayEntry f).toList ++ s) :
    e.1 = f.1 ∧ e.2.display.toList ++ r = f.2.display.toList ++ s := by
  obtain ⟨a, hea, ha⟩ := he
  obtain ⟨b, hfb, hb⟩ := hf
  -- an entry is its name, a colon and a space, and the value
  have hentry : ∀ {g : PropertyKey × Value} {name : String} (t : List Char), g.1 = .string name →
      (displayEntry g).toList ++ t = name.toList ++ ':' :: ' ' :: (g.2.display.toList ++ t) := by
    intro g name t hg
    have hcolon : ": ".toList = [':', ' '] := rfl
    rw [displayEntry, hg, PropertyKey.display, String.toList_append, String.toList_append, hcolon]
    simp only [List.append_assoc, List.cons_append, List.nil_append]
  rw [hentry r hea, hentry s hfb] at h
  obtain ⟨rfl, hrest⟩ := name_append_inj ha hb h
  exact ⟨hea.trans hfb.symm, (List.cons.inj hrest).2⟩

/-- What a value announces stands first in a list of values, so it cannot be taken for the bracket
that ends an empty one. -/
theorem separated_append_ne_cons {vs : List Value} (hne : vs ≠ []) (hvs : ∀ v ∈ vs, IsData v)
    {r s : List Char} : separated (vs.map display) ++ r ≠ ']' :: s := by
  intro h
  cases vs with
  | nil => exact hne rfl
  | cons v vs =>
    obtain ⟨c, cs, hcs, hc⟩ := exists_display_eq_cons (hvs v List.mem_cons_self)
    -- the first character of the list is that of the first value
    have hfirst : c = ']' := by
      unfold separated at h
      cases vs with
      | nil =>
        rw [List.map_singleton, List.map_singleton, List.intercalate_singleton, hcs] at h
        exact (List.cons.inj h).1
      | cons v' vs =>
        rw [List.map_cons, List.map_cons, List.map_cons, List.map_cons,
          List.intercalate_cons_cons, hcs] at h
        exact (List.cons.inj h).1
    rw [hfirst] at hc
    cases hc

/-- A value can be read wherever it stands: a rendering that is the same up to a place where an
entry may end is one of the same value, but for the sign of zeros, and ends there. -/
def ReadsFromLeft (v : Value) : Prop :=
  ∀ w : Value, IsData w → ∀ r s : List Char, EndsEntry r → EndsEntry s →
    v.display.toList ++ r = w.display.toList ++ s → v.unsignZeros = w.unsignZeros ∧ r = s

/-- An array can be read if its items can. -/
theorem array_append_inj {vs ws : List Value} (hvs : ∀ v ∈ vs, IsData v)
    (hws : ∀ w ∈ ws, IsData w) (ih : ∀ v ∈ vs, v.ReadsFromLeft) {r s : List Char}
    (h : (array vs).display.toList ++ r = (array ws).display.toList ++ s) :
    vs.map unsignZeros = ws.map unsignZeros ∧ r = s := by
  -- the bracket is a place where an item may end
  have hends : ∀ t : List Char, EndsEntry (']' :: t) := by
    rintro t c ⟨⟩
    exact .inr (.inl rfl)
  rw [display_array_append, display_array_append] at h
  have hinside := (List.cons.inj h).2
  by_cases hv : vs = []
  · by_cases hw : ws = []
    · subst hv hw
      exact ⟨rfl, (List.cons.inj hinside).2⟩
    · subst hv
      exact absurd hinside.symm (separated_append_ne_cons hw hws)
  · by_cases hw : ws = []
    · subst hw
      exact absurd hinside (separated_append_ne_cons hv hvs)
    · unfold separated at hinside
      rw [List.map_map, List.map_map] at hinside
      obtain ⟨hitems, hrest⟩ := separated_append_inj unsignZeros hv hw (hends r) (hends s)
        (by simp) (by simp) (fun v hv w hw r s => ih v hv w (hws w hw) r s) hinside
      exact ⟨hitems, (List.cons.inj hrest).2⟩

/-- An object can be read if the values under its keys can. -/
theorem object_append_inj {ps qs : List (PropertyKey × Value)}
    (hps : ∀ e ∈ ps, ∃ name, e.1 = .string name ∧ PlainName name)
    (hqs : ∀ e ∈ qs, ∃ name, e.1 = .string name ∧ PlainName name)
    (hdata : ∀ e ∈ qs, IsData e.2) (ih : ∀ e ∈ ps, e.2.ReadsFromLeft) {r s : List Char}
    (h : (object ⟨none, ps⟩).display.toList ++ r = (object ⟨none, qs⟩).display.toList ++ s) :
    ps.map (fun e => (e.1, e.2.unsignZeros)) = qs.map (fun e => (e.1, e.2.unsignZeros)) ∧
      r = s := by
  have hends : ∀ t : List Char, EndsEntry (' ' :: t) := by
    rintro t c ⟨⟩
    exact .inr (.inr rfl)
  have hentry : ∀ e ∈ ps, ∀ f ∈ qs, ∀ {r s : List Char}, EndsEntry r → EndsEntry s →
      (displayEntry e).toList ++ r = (displayEntry f).toList ++ s →
      (e.1, e.2.unsignZeros) = (f.1, f.2.unsignZeros) ∧ r = s := by
    intro e he f hf r s hr hs hef
    obtain ⟨hkey, hvalue⟩ := displayEntry_append_inj (hps e he) (hqs f hf) hef
    obtain ⟨hsame, hrest⟩ := ih e he f.2 (hdata f hf) r s hr hs hvalue
    exact ⟨by rw [hkey, hsame], hrest⟩
  -- the character behind the brace tells whether there are properties
  by_cases hp : ps = []
  · by_cases hq : qs = []
    · subst hp hq
      exact ⟨rfl, List.append_cancel_left h⟩
    · subst hp
      rw [display_object_nil_append, display_object_append hq] at h
      exact absurd (List.cons.inj (List.cons.inj h).2).1 (by decide)
  · by_cases hq : qs = []
    · subst hq
      rw [display_object_nil_append, display_object_append hp] at h
      exact absurd (List.cons.inj (List.cons.inj h).2).1 (by decide)
    · rw [display_object_append hp, display_object_append hq] at h
      have hinside := (List.cons.inj (List.cons.inj h).2).2
      unfold separated at hinside
      rw [List.map_map, List.map_map] at hinside
      obtain ⟨hentries, hrest⟩ := separated_append_inj _ hp hq (hends _) (hends _) (by simp)
        (by simp) hentry hinside
      exact ⟨hentries, (List.cons.inj (List.cons.inj hrest).2).2⟩

/-- A big integer has the letter behind its digits. -/
theorem display_bigint_append (n : Int) (t : List Char) :
    (bigint n).display.toList ++ t = (toString n).toList ++ 'n' :: t := by
  rw [display, String.toList_append, List.append_assoc]
  rfl

/-- The letter is no digit. -/
theorem isDigit_eq_false_of_head?_letter {t : List Char} :
    ∀ c, ('n' :: t).head? = some c → c.isDigit = false := by
  rintro c ⟨⟩
  rfl

/-- A number and a big integer are told apart by the letter. -/
theorem number_append_ne_bigint {x : Binary64} {m n : Int} (hx : x.toInt? = some m)
    (hm : m.natAbs < 1000000000000000000000) {r s : List Char} (hr : EndsEntry r) :
    (number x).display.toList ++ r ≠ (bigint n).display.toList ++ s := by
  intro h
  rw [display, Binary64.plain_eq hx hm, display_bigint_append] at h
  -- the digits end on both sides, so the letter would have to end an entry
  obtain ⟨-, rfl⟩ :=
    Numeral.toString_append_inj hr.isDigit_eq_false isDigit_eq_false_of_head?_letter h
  rcases hr 'n' rfl with hc | hc | hc <;> cases hc

/-- **Data values can be read from the left.** -/
theorem readsFromLeft_of_isData {v : Value} (hv : IsData v) : v.ReadsFromLeft := by
  intro w hw r s hr hs h
  -- the first character leaves one kind for the second value, or the two sorts of integers
  induction hv generalizing w r s with
  | undefined =>
    have hkind := announced_eq .undefined hw h
    cases hw with
    | undefined => exact ⟨rfl, List.append_cancel_left h⟩
    | _ => cases hkind
  | null =>
    have hkind := announced_eq .null hw h
    cases hw with
    | null => exact ⟨rfl, List.append_cancel_left h⟩
    | _ => cases hkind
  | bool b =>
    have hkind := announced_eq (.bool b) hw h
    cases hw with
    | bool c =>
      cases b <;> cases c
      · exact ⟨rfl, List.append_cancel_left h⟩
      · simp [display] at h
      · simp [display] at h
      · exact ⟨rfl, List.append_cancel_left h⟩
    | _ => cases hkind
  | @number x m hx hm =>
    have hkind := announced_eq (.number hx hm) hw h
    cases hw with
    | @number y n hy hn =>
      rw [display, display, Binary64.plain_eq hx hm, Binary64.plain_eq hy hn] at h
      obtain ⟨rfl, hrest⟩ :=
        Numeral.toString_append_inj hr.isDigit_eq_false hs.isDigit_eq_false h
      exact ⟨congrArg number (Binary64.unsignZero_eq_of_toInt? hx hy), hrest⟩
    | bigint n => exact absurd h (number_append_ne_bigint hx hm hr)
    | _ => cases hkind
  | bigint m =>
    have hkind := announced_eq (.bigint m) hw h
    cases hw with
    | @number y n hy hn => exact absurd h.symm (number_append_ne_bigint hy hn hs)
    | bigint n =>
      rw [display_bigint_append, display_bigint_append] at h
      obtain ⟨rfl, hrest⟩ := Numeral.toString_append_inj isDigit_eq_false_of_head?_letter
        isDigit_eq_false_of_head?_letter h
      exact ⟨rfl, (List.cons.inj hrest).2⟩
    | _ => cases hkind
  | string a =>
    have hkind := announced_eq (.string a) hw h
    cases hw with
    | string b =>
      obtain ⟨rfl, hrest⟩ := Quoted.encode_append_inj h
      exact ⟨rfl, hrest⟩
    | _ => cases hkind
  | @array vs hvs ih =>
    have hkind := announced_eq (.array hvs) hw h
    cases hw with
    | @array ws hws =>
      obtain ⟨hitems, hrest⟩ := array_append_inj hvs hws ih h
      rw [unsignZeros, unsignZeros, unsignZerosEach_eq_map, unsignZerosEach_eq_map, hitems]
      exact ⟨rfl, hrest⟩
    | _ => cases hkind
  | @object ps hkeys hps ih =>
    have hkind := announced_eq (.object hkeys hps) hw h
    cases hw with
    | @object qs hkeys' hqs =>
      obtain ⟨hentries, hrest⟩ := object_append_inj hkeys hkeys' hqs ih h
      rw [unsignZeros, unsignZeros, unsignZerosRecord, unsignZerosRecord, unsignZerosProps_eq_map,
        unsignZerosProps_eq_map, hentries]
      exact ⟨rfl, hrest⟩
    | _ => cases hkind

/-! ### The sign of zeros -/

/-- **The sign of a zero is not shown,** in whatever value it stands. -/
theorem display_unsignZeros (v : Value) : v.unsignZeros.display = v.display := by
  have hentries : ∀ ps : List (PropertyKey × Value),
      (∀ e ∈ ps, e.2.unsignZeros.display = e.2.display) →
      displayProps (unsignZerosProps ps) = displayProps ps := by
    intro ps ih
    rw [displayProps_eq_map, displayProps_eq_map, unsignZerosProps_eq_map, List.map_map]
    refine List.map_congr_left fun e he => ?_
    have hvalue := ih e he
    rw [Function.comp_apply, displayEntry, displayEntry, hvalue]
  induction v with
  | number x => exact Binary64.plain_unsignZero x
  | array items ih =>
    have hitems : (unsignZerosEach items).map display = items.map display := by
      rw [unsignZerosEach_eq_map, List.map_map]
      exact List.map_congr_left ih
    rw [unsignZeros, display, display, displayItems_eq_map, displayItems_eq_map, hitems]
  -- the class of a record makes no difference to its entries
  | object r ih =>
    obtain ⟨c, ps⟩ := r
    rw [unsignZeros, unsignZerosRecord, display, display]
    cases c with
    | none => rw [displayRecord, displayRecord, hentries ps ih]
    | some name => rw [displayRecord, displayRecord, hentries ps ih]
  | _ => rfl

/-- Values that differ in the sign of zeros only are of one kind. -/
theorem kind_eq_of_unsignZeros_eq {v w : Value} (h : v.unsignZeros = w.unsignZeros) :
    v.kind = w.kind := by
  have hkind : ∀ v : Value, v.unsignZeros.kind = v.kind := by
    intro v
    cases v <;> rfl
  rw [← hkind v, h, hkind w]

/-- Items that differ in the sign of zeros only are equal one by one, as far as this is known of the
values that are items. -/
theorem equalsEach_of_unsignZeros_eq {vs ws : List Value}
    (h : vs.map unsignZeros = ws.map unsignZeros)
    (ih : ∀ a ∈ vs, ∀ b ∈ ws, a.unsignZeros = b.unsignZeros → a.equals b = true) :
    equalsEach vs ws = true := by
  refine equalsEach_iff.2 fun i => ?_
  have hplace : (vs.map unsignZeros)[i]? = (ws.map unsignZeros)[i]? := by rw [h]
  rw [List.getElem?_map, List.getElem?_map] at hplace
  -- the two lists end together, so either both have an item in the place or neither has
  cases hvi : vs[i]? with
  | none =>
    cases hwi : ws[i]? with
    | none => exact .none
    | some b =>
      rw [hvi, hwi] at hplace
      cases hplace
  | some a =>
    cases hwi : ws[i]? with
    | none =>
      rw [hvi, hwi] at hplace
      cases hplace
    | some b =>
      rw [hvi, hwi] at hplace
      exact .some (ih a (List.mem_of_getElem? hvi) b (List.mem_of_getElem? hwi)
        (Option.some.inj hplace))

/-- Properties that differ in the sign of zeros only are equal key by key, if no key is repeated. -/
theorem equalsProps_of_unsignZeros_eq {ps qs : List (PropertyKey × Value)}
    (hdistinct : OrderedMap.Distinct qs)
    (h : ps.map (fun e => (e.1, e.2.unsignZeros)) = qs.map (fun e => (e.1, e.2.unsignZeros)))
    (ih : ∀ e ∈ ps, ∀ f ∈ qs, e.2.unsignZeros = f.2.unsignZeros → e.2.equals f.2 = true) :
    equalsProps ps qs = true := by
  refine equalsProps_iff.2 fun e he => ?_
  -- the entry in the place of `e` is the one that is found under its key
  have hentry : (e.1, e.2.unsignZeros) ∈ qs.map fun e => (e.1, e.2.unsignZeros) := by
    rw [← h]
    exact List.mem_map_of_mem he
  obtain ⟨f, hf, hfe⟩ := List.mem_map.1 hentry
  obtain ⟨hkey, hvalue⟩ := Prod.mk.inj hfe
  have hget : OrderedMap.get? qs e.1 = some f.2 := by
    rw [← hkey]
    exact OrderedMap.get?_of_mem hdistinct hf
  exact ⟨f.2, hget, ih e he f hf hvalue.symm⟩

/-- Data values that differ in the sign of zeros only are equal, the keys of their objects being
distinct. -/
theorem equals_of_unsignZeros_eq {v w : Value} (hv : IsData v) (hw : IsData w)
    (hwell : w.WellFormed) (h : v.unsignZeros = w.unsignZeros) : v.equals w = true := by
  have hnan : ∀ {x : Binary64} {n : Int}, x.toInt? = some n → x.isNaN = false := by
    intro x n hx
    exact Binary64.isNaN_of_isFinite (Binary64.isFinite_of_toInt? hx)
  have hkind : v.kind = w.kind := kind_eq_of_unsignZeros_eq h
  -- the kinds being the same, the second value is of the constructor of the first
  induction hv generalizing w with
  | undefined => cases hw <;> first | rfl | cases hkind
  | null => cases hw <;> first | rfl | cases hkind
  | bool b =>
    cases hw with
    | bool c => exact beq_iff_eq.2 (Value.bool.inj h)
    | _ => cases hkind
  | @number x m hx hm =>
    cases hw with
    | @number y n hy hn =>
      exact Binary64.equals_of_unsignZero_eq (hnan hx) (hnan hy) (Value.number.inj h)
    | _ => cases hkind
  | bigint m =>
    cases hw with
    | bigint n => exact beq_iff_eq.2 (Value.bigint.inj h)
    | _ => cases hkind
  | string a =>
    cases hw with
    | string b => exact beq_iff_eq.2 (Value.string.inj h)
    | _ => cases hkind
  | @array vs hvs ih =>
    cases hw with
    | @array ws hws =>
      have hmap : vs.map unsignZeros = ws.map unsignZeros := by
        rw [← unsignZerosEach_eq_map, ← unsignZerosEach_eq_map]
        exact Value.array.inj h
      have hitems := wellFormedEach_iff.1 hwell
      exact equalsEach_of_unsignZeros_eq hmap fun a ha b hb hab =>
        ih a ha (hws b hb) (hitems b hb) hab (kind_eq_of_unsignZeros_eq hab)
    | _ => cases hkind
  | @object ps hkeys hps ih =>
    cases hw with
    | @object qs hkeys' hqs =>
      obtain ⟨hdistinct, hvalues⟩ := wellFormedRecord_iff.1 hwell
      have hmap : ps.map (fun e => (e.1, e.2.unsignZeros))
          = qs.map (fun e => (e.1, e.2.unsignZeros)) := by
        rw [← unsignZerosProps_eq_map, ← unsignZerosProps_eq_map]
        exact (Record.mk.inj (Value.object.inj h)).2
      have hlength : ps.length = qs.length := by simpa using congrArg List.length hmap
      have hprops : equalsProps ps qs = true :=
        equalsProps_of_unsignZeros_eq hdistinct hmap fun e he f hf hef =>
          ih e he (hqs f hf) (hvalues f hf) hef (kind_eq_of_unsignZeros_eq hef)
      exact equalsRecord_iff.2 ⟨rfl, hlength, hprops⟩
    | _ => cases hkind

/-! ### Renderings and messages tell data values apart -/

section Messages

variable {τ ρ σ π : Type}

/-- An error about an input without a clause holds its rendering. -/
theorem eq_display_of_finish {t : Terminal τ ρ} {v : Value} {result? : Option ρ} {text : String}
    (h : (t.finish v result?).value = .failed (.unmatched text)) : text = v.display := by
  cases t <;> cases result? <;> cases h
  rfl

/-- So does the error of a rule set. -/
theorem eq_display_of_run {c : CompiledRules τ} {v : Value} {text : String}
    (h : (c.run v).value = .error (.unmatched text)) : text = v.display := by
  unfold CompiledRules.run at h
  rw [Traced.value_bind] at h
  cases hresult : (c.matcher.run v).value.result? with
  | some result =>
    rw [hresult] at h
    cases h
  | none =>
    cases hotherwise : c.otherwise with
    | some fallback =>
      rw [hresult, hotherwise] at h
      cases h
    | none =>
      rw [hresult, hotherwise] at h
      cases h
      rfl

end Messages

/-- **The rendering of a data value says which one it is.** Data values are rendered alike exactly
if they are the same value, item by item and key by key in the same order, but for the sign of
zeros; then they are also equal, as far as the keys of an object are distinct. Hence the errors
about inputs without a clause, whichever matchers or rule sets they come from, are equal exactly if
the inputs are the same in this sense. -/
theorem display_is_unambiguous {v w : Value} (hv : IsData v) (hw : IsData w) :
    (v.display = w.display ↔ v.unsignZeros = w.unsignZeros) ∧
    (w.WellFormed → v.display = w.display → (v == w) = true) ∧
    (∀ {τ ρ σ π : Type} (t : Terminal τ ρ) (u : Terminal σ π) (result? : Option ρ)
      (result?' : Option π) (text text' : String),
      (t.finish v result?).value = .failed (.unmatched text) →
      (u.finish w result?').value = .failed (.unmatched text') →
      (MatchError.unmatched text = .unmatched text' ↔ v.unsignZeros = w.unsignZeros)) ∧
    ∀ {τ σ : Type} (c : CompiledRules τ) (d : CompiledRules σ) (text text' : String),
      (c.run v).value = .error (.unmatched text) → (d.run w).value = .error (.unmatched text') →
      (MatchError.unmatched text = .unmatched text' ↔ v.unsignZeros = w.unsignZeros) := by
  have hdisplay : v.display = w.display ↔ v.unsignZeros = w.unsignZeros := by
    constructor
    · intro h
      -- nothing stands behind a whole rendering
      have hnothing : EndsEntry [] := fun _ hc => nomatch hc
      have htexts : v.display.toList ++ [] = w.display.toList ++ [] := by rw [h]
      exact (readsFromLeft_of_isData hv w hw [] [] hnothing hnothing htexts).1
    · intro h
      rw [← display_unsignZeros v, h, display_unsignZeros w]
  -- errors without a clause hold the rendering and nothing else
  have herrors : ∀ {text text' : String}, text = v.display → text' = w.display →
      (MatchError.unmatched text = .unmatched text' ↔ v.unsignZeros = w.unsignZeros) := by
    rintro text text' rfl rfl
    rw [MatchError.unmatched.injEq]
    exact hdisplay
  refine ⟨hdisplay, ?_, ?_, ?_⟩
  · intro hwell h
    exact equals_of_unsignZeros_eq hv hw hwell (hdisplay.1 h)
  · intro _ _ _ _ t u result? result?' text text' ht hu
    exact herrors (eq_display_of_finish ht) (eq_display_of_finish hu)
  · intro _ _ c d text text' hc hd
    exact herrors (eq_display_of_run hc) (eq_display_of_run hd)

/-- An object with a zero inside is rendered like the same object with the other zero, to which it
is equal, and is not reported like the one with a big integer in its place. What would end an item,
an array and an object stands in a string beside it. -/
theorem display_is_unambiguous_among_delimiters :
    let of (v : Value) : Value :=
      .object ⟨none, [(.string "a", .array [.string "], \"b_1: \x7b\x7d", v]),
        (.string "b_1", .object ⟨none, []⟩)]⟩
    (of (.number .zero)).display = (of (.number .negativeZero)).display ∧
      (of (.number .zero) == of (.number .negativeZero)) = true ∧
      MatchError.unmatched (of (.number .zero)).display
        ≠ .unmatched (of (.bigint 0)).display := by
  intro of
  have hname : PlainName "a" ∧ PlainName "b_1" := by simp [PlainName]
  -- the string holds delimiters, but a quoted text may hold any character
  have hof : ∀ v, IsData v → IsData (of v) := by
    intro v hv
    have hitems : IsData (.array [.string "], \"b_1: \x7b\x7d", v]) :=
      .array (List.forall_mem_cons.2 ⟨.string _, List.forall_mem_singleton.2 hv⟩)
    have hempty : IsData (.object ⟨none, []⟩) :=
      .object (List.forall_mem_nil _) (List.forall_mem_nil _)
    refine .object (List.forall_mem_cons.2 ⟨⟨"a", rfl, hname.1⟩, ?_⟩)
      (List.forall_mem_cons.2 ⟨hitems, List.forall_mem_singleton.2 hempty⟩)
    exact List.forall_mem_singleton.2 ⟨"b_1", rfl, hname.2⟩
  have hzero : IsData (of (.number .zero)) :=
    hof _ (.number (Binary64.toInt?_of_isZero rfl) (by decide))
  have hnegative : IsData (of (.number .negativeZero)) :=
    hof _ (.number (Binary64.toInt?_of_isZero rfl) (by decide))
  obtain ⟨hdisplay, hequal, -⟩ := display_is_unambiguous hzero hnegative
  have hsame : (of (.number .zero)).display = (of (.number .negativeZero)).display := hdisplay.2 rfl
  have hwell : (of (.number .negativeZero)).WellFormed := Json.wellFormed_toValue
    (.object [("a", .array [.string "], \"b_1: \x7b\x7d", .number (.real .negativeZero)]),
      ("b_1", .object [])])
  refine ⟨hsame, hequal hwell hsame, fun herror => ?_⟩
  obtain ⟨-, -, hfinish, -⟩ := display_is_unambiguous hzero (hof _ (.bigint 0))
  have hvalues := (hfinish (.exhaustive : Terminal Unit Unit) (.exhaustive : Terminal Unit Unit)
    none none _ _ rfl rfl).1 herror
  simp [of, unsignZeros, unsignZerosRecord, unsignZerosProps, unsignZerosEach] at hvalues

end Value

end Casewise
