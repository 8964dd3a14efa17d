import Casewise.Text.Quoted

/-!
# Texts that end where they say

When texts are written one behind the other without a length in front, the reader has to see where
each of them ends. Every lemma of this module says so of one kind of text, in one form: two texts of
the kind, each with something behind it, spell the same only if the texts are the same and what is
behind them is.

* `run_append_inj` — runs of characters of a class, ended by a character outside of it;
* `Numeral.toString_append_inj`, `Numeral.toDigits_inj` — integers in decimal digits, and digits in
  any base up to sixteen;
* `Quoted.encode_append_inj` — quoted texts, which end themselves: the spelling of no character
  begins with a quote, and none is the beginning of another (`Quoted.escape_append_inj`);
* `separated_append_inj` — lists with separators between the entries, if an entry ends where a
  separator may stand.
-/

namespace Casewise

/-! ### Runs of characters -/

/-- Characters of a class that are followed by none of it are the longest front in the class. -/
theorem takeWhile_append_of_forall {p : Char → Bool} {a r : List Char} (ha : ∀ c ∈ a, p c = true)
    (hr : ∀ c, r.head? = some c → p c = false) : (a ++ r).takeWhile p = a := by
  rw [List.takeWhile_append_of_pos ha]
  cases r with
  | nil => rw [List.takeWhile_nil, List.append_nil]
  | cons c r => rw [List.takeWhile_cons, if_neg (Bool.eq_false_iff.1 (hr c rfl)), List.append_nil]

/-- A run of characters of a class ends at the first character outside of it. -/
theorem run_append_inj {p : Char → Bool} {a b r s : List Char} (ha : ∀ c ∈ a, p c = true)
    (hb : ∀ c ∈ b, p c = true) (hr : ∀ c, r.head? = some c → p c = false)
    (hs : ∀ c, s.head? = some c → p c = false) (h : a ++ r = b ++ s) : a = b ∧ r = s := by
  -- both runs are the front of one text that is in the class
  have hsame : a = b := by
    rw [← takeWhile_append_of_forall ha hr, h, takeWhile_append_of_forall hb hs]
  subst hsame
  exact ⟨rfl, List.append_cancel_left h⟩

/-! ### Numerals -/

namespace Numeral

/-- Digits in bases up to sixteen have different characters. -/
theorem digitChar_inj {m n : Nat} (hm : m < 16) (hn : n < 16) (h : m.digitChar = n.digitChar) :
    m = n := by
  have hall : ∀ i < 16, ∀ j < 16, Nat.digitChar i = Nat.digitChar j → i = j := by decide
  exact hall m hm n hn h

/-- A number of one digit is not written like one of at least two. -/
theorem toDigits_ne_of_lt_of_le {b m n : Nat} (hb : 1 < b) (hm : m < b) (hn : b ≤ n) :
    Nat.toDigits b m ≠ Nat.toDigits b n := by
  intro h
  rw [Nat.toDigits_of_lt_base hm, Nat.toDigits_of_base_le hb hn] at h
  have hlength := congrArg List.length h
  have hmore : 0 < (Nat.toDigits b (n / b)).length := Nat.length_toDigits_pos
  simp only [List.length_append, List.length_cons, List.length_nil] at hlength
  omega

/-- The digits of a number in a base up to sixteen say which number it is. -/
theorem toDigits_inj {b : Nat} (hb : 1 < b) (hb' : b ≤ 16) {m n : Nat}
    (h : Nat.toDigits b m = Nat.toDigits b n) : m = n := by
  induction m using Nat.strongRecOn generalizing n with
  | ind m ih =>
    have hpos : 0 < b := by omega
    rcases Nat.lt_or_ge m b with hm | hm
    · rcases Nat.lt_or_ge n b with hn | hn
      · rw [Nat.toDigits_of_lt_base hm, Nat.toDigits_of_lt_base hn] at h
        exact digitChar_inj (by omega) (by omega) (List.cons.inj h).1
      · exact absurd h (toDigits_ne_of_lt_of_le hb hm hn)
    · rcases Nat.lt_or_ge n b with hn | hn
      · exact absurd h.symm (toDigits_ne_of_lt_of_le hb hn hm)
      -- the last digit is the remainder, and the ones before it are those of the quotient
      · rw [Nat.toDigits_of_base_le hb hm, Nat.toDigits_of_base_le hb hn] at h
        obtain ⟨hfront, hlast⟩ := List.append_inj' h rfl
        have hsmaller : m / b < m := Nat.div_lt_self (by omega) hb
        have hquotient : m / b = n / b := ih (m / b) hsmaller hfront
        have hmb : m % b < b := Nat.mod_lt m hpos
        have hnb : n % b < b := Nat.mod_lt n hpos
        have hremainder : m % b = n % b :=
          digitChar_inj (by omega) (by omega) (List.cons.inj hlast).1
        rw [← Nat.div_add_mod m b, ← Nat.div_add_mod n b, hquotient, hremainder]

/-- All characters of a number are digits, of whatever base. -/
theorem exists_digitChar_of_mem {b n : Nat} (hb : 1 < b) {c : Char} (h : c ∈ Nat.toDigits b n) :
    ∃ d : Nat, c = d.digitChar := by
  induction n using Nat.strongRecOn with
  | ind n ih =>
    rcases Nat.lt_or_ge n b with hn | hn
    · rw [Nat.toDigits_of_lt_base hn, List.mem_singleton] at h
      exact ⟨n, h⟩
    · rw [Nat.toDigits_of_base_le hb hn] at h
      rcases List.mem_append.1 h with h | h
      · exact ih (n / b) (Nat.div_lt_self (by omega) hb) h
      · exact ⟨n % b, List.mem_singleton.1 h⟩

/-- The text of an integer: its digits, behind a sign if it is negative. -/
theorem toList_toString (n : Int) :
    (toString n).toList
      = if 0 ≤ n then Nat.toDigits 10 n.toNat else '-' :: Nat.toDigits 10 (-n).toNat := by
  rw [Int.toString_eq_repr, Int.repr_eq_if]
  split
  · exact Nat.toList_repr
  · rw [String.toList_append, Nat.toList_repr]
    rfl

/-- In base ten, the characters of a number are decimal digits. -/
theorem isDigit_of_mem {n : Nat} : ∀ c ∈ Nat.toDigits 10 n, c.isDigit = true :=
  fun _ hc => Nat.isDigit_of_mem_toDigits (by decide) (by decide) hc

/-- The text of an integer begins with a digit or with the sign. -/
theorem exists_toString_eq_cons (n : Int) :
    ∃ c cs, (toString n).toList = c :: cs ∧ (c.isDigit = true ∨ c = '-') := by
  rw [toList_toString]
  split
  · obtain ⟨c, cs, hcs⟩ := List.exists_cons_of_ne_nil (Nat.toDigits_ne_nil (n := n.toNat) (b := 10))
    exact ⟨c, cs, hcs, .inl (isDigit_of_mem c (hcs ▸ List.mem_cons_self))⟩
  · exact ⟨'-', _, rfl, .inr rfl⟩

/-- **An integer ends before the first character that is no digit.** -/
theorem toString_append_inj {m n : Int} {r s : List Char}
    (hr : ∀ c, r.head? = some c → c.isDigit = false)
    (hs : ∀ c, s.head? = some c → c.isDigit = false)
    (h : (toString m).toList ++ r = (toString n).toList ++ s) : m = n ∧ r = s := by
  -- a sign against a digit
  have hsign : ∀ {k l : Nat} {r s : List Char},
      '-' :: Nat.toDigits 10 k ++ r ≠ Nat.toDigits 10 l ++ s := by
    intro k l r s h
    obtain ⟨c, cs, hcs⟩ := List.exists_cons_of_ne_nil (Nat.toDigits_ne_nil (n := l) (b := 10))
    have hdigit : c.isDigit = true := isDigit_of_mem c (hcs ▸ List.mem_cons_self)
    rw [hcs] at h
    rw [← (List.cons.inj h).1] at hdigit
    cases hdigit
  -- two runs of digits
  have hdigits : ∀ {k l : Nat} {r s : List Char}, (∀ c, r.head? = some c → c.isDigit = false) →
      (∀ c, s.head? = some c → c.isDigit = false) →
      Nat.toDigits 10 k ++ r = Nat.toDigits 10 l ++ s → k = l ∧ r = s := by
    intro k l r s hr hs h
    obtain ⟨hsame, hrest⟩ := run_append_inj isDigit_of_mem isDigit_of_mem hr hs h
    exact ⟨toDigits_inj (by decide) (by decide) hsame, hrest⟩
  rw [toList_toString, toList_toString] at h
  by_cases hm : 0 ≤ m
  · by_cases hn : 0 ≤ n
    · rw [if_pos hm, if_pos hn] at h
      obtain ⟨hsame, hrest⟩ := hdigits hr hs h
      exact ⟨by omega, hrest⟩
    · rw [if_pos hm, if_neg hn] at h
      exact absurd h.symm hsign
  · by_cases hn : 0 ≤ n
    · rw [if_neg hm, if_pos hn] at h
      exact absurd h hsign
    · rw [if_neg hm, if_neg hn] at h
      obtain ⟨hsame, hrest⟩ := hdigits hr hs (List.cons.inj h).2
      exact ⟨by omega, hrest⟩

end Numeral

/-! ### Quoted texts -/

namespace Quoted

/-- The letters that stand behind a backslash for one character, each with its character. -/
def shorthands : List (Char × Char) :=
  [('"', '"'), ('\\', '\\'), ('n', '\n'), ('r', '\r'), ('t', '\t'), ('0', '\x00')]

/-- Every shorthand has a letter of its own. -/
theorem shorthands_inj :
    ∀ e ∈ shorthands, ∀ f ∈ shorthands, e.1 = f.1 ↔ e.2 = f.2 := by decide

/-- The letter in front of a code point is no shorthand. -/
theorem ne_of_mem_shorthands : ∀ e ∈ shorthands, e.1 ≠ 'u' := by decide

/-- A character stands for itself, unless it is a quote or a backslash; or is spelled by a backslash
and its letter; or by its code point in braces. -/
theorem escape_cases (c : Char) :
    (escape c = [c] ∧ c ≠ '"' ∧ c ≠ '\\') ∨
    (∃ letter, (letter, c) ∈ shorthands ∧ escape c = ['\\', letter]) ∨
    escape c = '\\' :: 'u' :: '\x7b' :: hexadecimal c.toNat ++ ['\x7d'] := by
  unfold escape
  split
  · exact .inr (.inl ⟨'"', by decide, rfl⟩)
  · exact .inr (.inl ⟨'\\', by decide, rfl⟩)
  · exact .inr (.inl ⟨'n', by decide, rfl⟩)
  · exact .inr (.inl ⟨'r', by decide, rfl⟩)
  · exact .inr (.inl ⟨'t', by decide, rfl⟩)
  · exact .inr (.inl ⟨'0', by decide, rfl⟩)
  -- all others are spelled by their code points if they are not printable
  · next hquote hbackslash _ _ _ _ =>
    split
    · exact .inl ⟨rfl, hquote, hbackslash⟩
    · split
      · exact .inr (.inr rfl)
      · exact .inl ⟨rfl, hquote, hbackslash⟩

/-- What stands in braces ends at the closing one, and says which character it is. -/
theorem hexadecimal_append_inj {c d : Char} {r s : List Char}
    (h : hexadecimal c.toNat ++ '\x7d' :: r = hexadecimal d.toNat ++ '\x7d' :: s) :
    c = d ∧ r = s := by
  -- no digit is a closing brace
  have hdigits : ∀ n, ∀ x ∈ hexadecimal n, (x != '\x7d') = true := by
    intro n x hx
    obtain ⟨d, rfl⟩ := Numeral.exists_digitChar_of_mem (by decide) hx
    exact bne_iff_ne.2 (Nat.digitChar_ne '\x7d' (by decide))
  have hbrace : ∀ {t : List Char} (x : Char), ('\x7d' :: t).head? = some x →
      (x != '\x7d') = false := by
    rintro t x ⟨⟩
    rfl
  obtain ⟨hsame, hrest⟩ := run_append_inj (hdigits c.toNat) (hdigits d.toNat) hbrace hbrace h
  have hcode : c.toNat = d.toNat := Numeral.toDigits_inj (by decide) (by decide) hsame
  exact ⟨Char.toNat_inj.1 hcode, (List.cons.inj hrest).2⟩

/-- **No spelling of a character is the beginning of another one.** -/
theorem escape_append_inj {c d : Char} {r s : List Char}
    (h : escape c ++ r = escape d ++ s) : c = d ∧ r = s := by
  rcases escape_cases c with ⟨hc, -, hc'⟩ | ⟨k, hk, hc⟩ | hc
  -- `c` stands for itself and is no backslash, with which all longer spellings begin
  · rcases escape_cases d with ⟨hd, -, -⟩ | ⟨l, -, hd⟩ | hd
    · rw [hc, hd] at h
      exact List.cons.inj h
    · rw [hc, hd] at h
      exact absurd (List.cons.inj h).1 hc'
    · rw [hc, hd] at h
      exact absurd (List.cons.inj h).1 hc'
  · rcases escape_cases d with ⟨hd, -, hd'⟩ | ⟨l, hl, hd⟩ | hd
    · rw [hc, hd] at h
      exact absurd (List.cons.inj h).1.symm hd'
    · rw [hc, hd] at h
      obtain ⟨hletter, hrest⟩ := List.cons.inj (List.cons.inj h).2
      -- two shorthands with one letter are one shorthand
      exact ⟨(shorthands_inj _ hk _ hl).1 hletter, hrest⟩
    · rw [hc, hd] at h
      exact absurd (List.cons.inj (List.cons.inj h).2).1 (ne_of_mem_shorthands _ hk)
  · rcases escape_cases d with ⟨hd, -, hd'⟩ | ⟨l, hl, hd⟩ | hd
    · rw [hc, hd] at h
      exact absurd (List.cons.inj h).1.symm hd'
    · rw [hc, hd] at h
      exact absurd (List.cons.inj (List.cons.inj h).2).1.symm (ne_of_mem_shorthands _ hl)
    · rw [hc, hd] at h
      refine hexadecimal_append_inj ?_
      simpa using h

/-- The spelling of a character does not begin with a quote. -/
theorem escape_append_ne_cons (c : Char) (r s : List Char) : escape c ++ r ≠ '"' :: s := by
  intro h
  rcases escape_cases c with ⟨hc, hc', -⟩ | ⟨k, -, hc⟩ | hc
  · rw [hc] at h
    exact hc' (List.cons.inj h).1
  · rw [hc] at h
    exact absurd (List.cons.inj h).1 (by decide)
  · rw [hc] at h
    exact absurd (List.cons.inj h).1 (by decide)

/-- **A quoted text ends at its second quote that is no spelling of one.** -/
theorem encode_append_inj {a b : String} {r s : List Char}
    (h : (encode a).toList ++ r = (encode b).toList ++ s) : a = b ∧ r = s := by
  -- character by character, up to the closing quote of either text
  have hbody : ∀ as bs : List Char,
      as.flatMap escape ++ '"' :: r = bs.flatMap escape ++ '"' :: s → as = bs ∧ r = s := by
    intro as
    induction as with
    | nil =>
      intro bs h
      cases bs with
      | nil => exact ⟨rfl, (List.cons.inj h).2⟩
      | cons d bs =>
        rw [List.flatMap_cons, List.append_assoc] at h
        exact absurd h.symm (escape_append_ne_cons d _ _)
    | cons c as ih =>
      intro bs h
      rw [List.flatMap_cons, List.append_assoc] at h
      cases bs with
      | nil => exact absurd h (escape_append_ne_cons c _ _)
      | cons d bs =>
        rw [List.flatMap_cons, List.append_assoc] at h
        obtain ⟨rfl, hrest⟩ := escape_append_inj h
        obtain ⟨rfl, hend⟩ := ih bs hrest
        exact ⟨rfl, hend⟩
  unfold encode at h
  rw [String.toList_ofList, String.toList_ofList] at h
  have hinside : a.toList.flatMap escape ++ '"' :: r = b.toList.flatMap escape ++ '"' :: s := by
    simpa only [List.append_assoc, List.cons_append, List.nil_append, List.cons.injEq, true_and]
      using h
  obtain ⟨hsame, hrest⟩ := hbody a.toList b.toList hinside
  exact ⟨String.toList_inj.1 hsame, hrest⟩

end Quoted

/-! ### Entries behind separators -/

/-- A separator in front of a separated list is one in front of each entry. -/
theorem separator_append_intercalate (separator : List Char) {texts : List (List Char)}
    (h : texts ≠ []) :
    separator ++ separator.intercalate texts = texts.flatMap (separator ++ ·) := by
  induction texts with
  | nil => exact absurd rfl h
  | cons t texts ih =>
    cases texts with
    | nil => simp
    | cons t' texts =>
      have hrest := ih (List.cons_ne_nil t' texts)
      rw [List.intercalate_cons_cons, List.flatMap_cons, ← hrest]
      simp

/-- What may stand behind an entry: a separator, or the end of the list that it is in. -/
def EndsEntry (r : List Char) : Prop := ∀ c, r.head? = some c → c = ',' ∨ c = ']' ∨ c = ' '

/-- No digit stands there. -/
theorem EndsEntry.isDigit_eq_false {r : List Char} (h : EndsEntry r) :
    ∀ c, r.head? = some c → c.isDigit = false := by
  intro c hc
  rcases h c hc with rfl | rfl | rfl <;> rfl

/-- **Entries behind separators are read one by one,** if each of them ends where one may end, and
what is behind the list is no further separator. -/
theorem entries_append_inj {α γ : Type} (text : α → List Char) (content : α → γ) {as bs : List α}
    {r s : List Char} (hr : EndsEntry r) (hs : EndsEntry s) (hr' : r.head? ≠ some ',')
    (hs' : s.head? ≠ some ',')
    (hentry : ∀ a ∈ as, ∀ b ∈ bs, ∀ {r s : List Char}, EndsEntry r → EndsEntry s →
      text a ++ r = text b ++ s → content a = content b ∧ r = s)
    (h : as.flatMap (fun a => ',' :: ' ' :: text a) ++ r
      = bs.flatMap (fun b => ',' :: ' ' :: text b) ++ s) :
    as.map content = bs.map content ∧ r = s := by
  -- whatever follows an entry is the comma of the next one, or what is behind the list
  have hends : ∀ (cs : List α) {t : List Char}, EndsEntry t →
      EndsEntry (cs.flatMap (fun c => ',' :: ' ' :: text c) ++ t) := by
    intro cs t ht
    cases cs with
    | nil => exact ht
    | cons c cs =>
      rintro x ⟨⟩
      exact .inl rfl
  induction as generalizing bs with
  | nil =>
    cases bs with
    | nil => exact ⟨rfl, h⟩
    | cons b bs =>
      rw [List.flatMap_nil, List.nil_append] at h
      exact absurd (congrArg List.head? h) hr'
  | cons a as ih =>
    cases bs with
    | nil =>
      rw [List.flatMap_nil, List.nil_append] at h
      exact absurd (congrArg List.head? h.symm) hs'
    | cons b bs =>
      rw [List.flatMap_cons, List.flatMap_cons, List.append_assoc, List.append_assoc] at h
      have hinside := (List.cons.inj (List.cons.inj h).2).2
      obtain ⟨hab, hrest⟩ := hentry a List.mem_cons_self b List.mem_cons_self (hends as hr)
        (hends bs hs) hinside
      obtain ⟨hcontents, hend⟩ := ih (fun a ha b hb => hentry a (List.mem_cons_of_mem _ ha) b
        (List.mem_cons_of_mem _ hb)) hrest
      exact ⟨by rw [List.map_cons, List.map_cons, hab, hcontents], hend⟩

/-- **A separated list is read entry by entry.** That there are entries at all has to be known. -/
theorem separated_append_inj {α γ : Type} {text : α → List Char} (content : α → γ) {as bs : List α}
    {r s : List Char} (has : as ≠ []) (hbs : bs ≠ []) (hr : EndsEntry r) (hs : EndsEntry s)
    (hr' : r.head? ≠ some ',') (hs' : s.head? ≠ some ',')
    (hentry : ∀ a ∈ as, ∀ b ∈ bs, ∀ {r s : List Char}, EndsEntry r → EndsEntry s →
      text a ++ r = text b ++ s → content a = content b ∧ r = s)
    (h : [',', ' '].intercalate (as.map text) ++ r = [',', ' '].intercalate (bs.map text) ++ s) :
    as.map content = bs.map content ∧ r = s := by
  -- with one more separator in front, every entry has its own
  have hfront : ∀ {cs : List α}, cs ≠ [] → ∀ t : List Char,
      [',', ' '] ++ ([',', ' '].intercalate (cs.map text) ++ t)
        = cs.flatMap (fun c => ',' :: ' ' :: text c) ++ t := by
    intro cs hcs t
    have hne : cs.map text ≠ [] := fun h => hcs (List.map_eq_nil_iff.1 h)
    rw [← List.append_assoc, separator_append_intercalate _ hne, List.flatMap_map]
    rfl
  refine entries_append_inj text content hr hs hr' hs' hentry ?_
  rw [← hfront has, ← hfront hbs, h]

end Casewise
