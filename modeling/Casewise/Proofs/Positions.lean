import Casewise.Predicate.Positional

/-!
# Predicates at their positions

A list of predicates is put to a list of items position by position. `Predicate.zipped` asks as far
as the shorter list reaches, `Predicate.tuple` asks only if no item is missing; so they differ in
what they do with lists of different lengths, and in nothing else. Predicates and items may be cut
at the same place and asked about piece by piece, as long as there is an item for every predicate of
the first piece.

How far the asking goes is a number, `Predicate.reach`. It is seen in the events of the predicates,
and also if they emit none: numbered predicates (`Predicate.numbered`) emit their position and
nothing else.

* `Predicate.value_tuple_iff`, `Predicate.test_tuple_take` — each of the two by the other;
* `Predicate.test_zipped_append`, `Predicate.value_tuple_append_iff` — lists cut in two;
* `Predicate.test_tuple_append_right` — items that no predicate is asked about;
* `Predicate.test_zipped`, `Predicate.events_zipped_numbered`, `Predicate.events_tuple_numbered` —
  positions are asked from the left, up to the first failure;
* `Predicate.positions_split_and_relate` — all of it in one statement.
-/

namespace Casewise.Predicate

variable {ε α : Type}

/-- How many positions are asked: all up to the first that fails, as far as both lists reach. -/
def reach (ps : List (Predicate ε α)) (items : List α) : Nat :=
  min ((ps.zip items).findIdx (fun e => !(e.1.test e.2).value) + 1) (ps.zip items).length

/-- The predicate, with being asked at `position` for its only event. -/
def askedAt (p : Predicate ε α) (position : Nat) : Predicate Nat α :=
  ⟨fun a => ⟨(p.test a).value, [position]⟩⟩

/-- The predicates, numbered from `first` on, with being asked for their only events. -/
def numbered (ps : List (Predicate ε α)) (first : Nat) : List (Predicate Nat α) :=
  (ps.zipIdx first).map fun e => e.1.askedAt e.2

/-! ### Items missing or left over -/

section Length

variable {ps : List (Predicate ε α)} {items : List α}

/-- With items enough a tuple is zipped with them. -/
theorem test_tuple_of_le (h : ps.length ≤ items.length) :
    (tuple ps).test items = (zipped ps).test items := if_pos h

/-- Otherwise it fails, and asks nothing. -/
theorem test_tuple_of_lt (h : items.length < ps.length) :
    (tuple ps).test items = pure false := if_neg (Nat.not_le.2 h)

/-- A tuple holds if no item is missing and those that are there pass. -/
theorem value_tuple_iff : ((tuple ps).test items).value = true ↔
    ps.length ≤ items.length ∧ ((zipped ps).test items).value = true := by
  -- too few items, or items enough
  rcases Nat.lt_or_ge items.length ps.length with hlt | hle
  · rw [test_tuple_of_lt hlt]
    exact iff_of_false Bool.false_ne_true fun h => absurd h.1 (Nat.not_le.2 hlt)
  · rw [test_tuple_of_le hle]
    exact (and_iff_right hle).symm

private theorem zip_append_of_length_le {β γ : Type} {bs : List β} {cs : List γ}
    (h : bs.length ≤ cs.length) (more : List γ) : bs.zip (cs ++ more) = bs.zip cs := by
  induction bs generalizing cs with
  | nil => rfl
  | cons b bs ih =>
    cases cs with
    | nil => cases h
    | cons c cs => exact congrArg ((b, c) :: ·) (ih (Nat.le_of_succ_le_succ h))

/-- A tuple does not look behind its last position. -/
theorem test_tuple_append_right (h : ps.length ≤ items.length) (more : List α) :
    (tuple ps).test (items ++ more) = (tuple ps).test items := by
  have hmore : ps.length ≤ (items ++ more).length := by
    rw [List.length_append]
    exact Nat.le_add_right_of_le h
  rw [test_tuple_of_le hmore, test_tuple_of_le h]
  dsimp only [zipped]
  rw [zip_append_of_length_le h]

private theorem take_min_length_zip {β γ : Type} (bs : List β) (cs : List γ) :
    (bs.take (min bs.length cs.length)).zip cs = bs.zip cs := by
  induction bs generalizing cs with
  | nil => simp
  | cons b bs ih =>
    cases cs with
    | nil => simp
    | cons c cs =>
      rw [List.length_cons, List.length_cons, Nat.add_min_add_right, List.take_succ_cons,
        List.zip_cons_cons, ih, List.zip_cons_cons]

/-- Zipped predicates are a tuple once those that have no item are left out. -/
theorem test_tuple_take (ps : List (Predicate ε α)) (items : List α) :
    (tuple (ps.take (min ps.length items.length))).test items = (zipped ps).test items := by
  -- those that are left have an item each
  have hle : (ps.take (min ps.length items.length)).length ≤ items.length := by
    rw [List.length_take]
    omega
  rw [test_tuple_of_le hle]
  dsimp only [zipped]
  rw [take_min_length_zip]

end Length

/-! ### Lists cut in two -/

section Append

variable {ps : List (Predicate ε α)} {xs : List α} (h : xs.length = ps.length)
  (qs : List (Predicate ε α)) (ys : List α)

include h

/-- The second pieces are asked about if the first ones pass. -/
theorem test_zipped_append : (zipped (ps ++ qs)).test (xs ++ ys)
    = (do if ← (zipped ps).test xs then (zipped qs).test ys else pure false) := by
  dsimp only [zipped]
  rw [List.zip_append h.symm, Traced.all_append]

/-- Zipped with lists that are cut in two, the predicates hold if they do piece by piece. -/
theorem value_zipped_append_iff : ((zipped (ps ++ qs)).test (xs ++ ys)).value = true ↔
    ((zipped ps).test xs).value = true ∧ ((zipped qs).test ys).value = true := by
  rw [test_zipped_append h, Traced.value_bind]
  cases ((zipped ps).test xs).value <;> simp

/-- So does a tuple. Items can be missing from the second piece only. -/
theorem value_tuple_append_iff : ((tuple (ps ++ qs)).test (xs ++ ys)).value = true ↔
    ((tuple ps).test xs).value = true ∧ ((tuple qs).test ys).value = true := by
  -- the first pieces are of one length, so the second ones decide whether items are missing
  have hlength : (ps ++ qs).length ≤ (xs ++ ys).length ↔ qs.length ≤ ys.length := by
    rw [List.length_append, List.length_append, h]
    exact Nat.add_le_add_iff_left
  rw [value_tuple_iff, value_tuple_iff, value_tuple_iff, value_zipped_append_iff h, hlength,
    and_iff_right (Nat.le_of_eq h.symm)]
  exact and_left_comm

end Append

/-! ### The order of asking -/

/-- Positions are asked from the left, up to the first failure. -/
theorem test_zipped (ps : List (Predicate ε α)) (items : List α) :
    (zipped ps).test items
      = ⟨(ps.zip items).all fun e => (e.1.test e.2).value,
          ((ps.zip items).take (reach ps items)).flatMap fun e => (e.1.test e.2).events⟩ := by
  rw [reach, ← List.take_eq_take_min]
  exact Traced.all_eq _ _

theorem test_zipped_cons (p : Predicate ε α) (ps : List (Predicate ε α)) (a : α) (as : List α) :
    (zipped (p :: ps)).test (a :: as)
      = (do if ← p.test a then (zipped ps).test as else pure false) := rfl

/-- The next position is asked if this one passes. -/
theorem reach_cons (p : Predicate ε α) (ps : List (Predicate ε α)) (a : α) (as : List α) :
    reach (p :: ps) (a :: as) = if (p.test a).value then reach ps as + 1 else 1 := by
  rw [reach, List.zip_cons_cons, List.findIdx_cons, List.length_cons]
  cases (p.test a).value with
  | true => exact Nat.add_min_add_right _ _ _
  -- this position is asked, and it is the last one
  | false => exact Nat.min_eq_left (Nat.le_add_left _ _)

/-- Numbered predicates give the answers of the predicates themselves, and tell which of them were
asked: each from the first one on, as far as the asking goes. -/
theorem test_zipped_numbered (ps : List (Predicate ε α)) (items : List α) (first : Nat) :
    (zipped (numbered ps first)).test items
      = ⟨((zipped ps).test items).value, List.range' first (reach ps items)⟩ := by
  induction ps generalizing items first with
  | nil => rfl
  | cons p ps ih =>
    cases items with
    | nil => rfl
    | cons a as =>
      -- behind the first position the numbers begin with the next one
      have hnumbered : numbered (p :: ps) first = p.askedAt first :: numbered ps (first + 1) := rfl
      rw [hnumbered, test_zipped_cons, test_zipped_cons, ih, reach_cons]
      cases h : (p.test a).value with
      | true => exact Traced.ext (by simp [askedAt, h]) (by simp [askedAt, h, List.range'_succ])
      | false => exact Traced.ext (by simp [askedAt, h]) (by simp [askedAt, h])

/-- Zipped with items, the positions up to the reach are asked. -/
theorem events_zipped_numbered (ps : List (Predicate ε α)) (items : List α) :
    ((zipped (numbered ps 0)).test items).events = List.range (reach ps items) := by
  rw [test_zipped_numbered, List.range_eq_range']

/-- Of a tuple they are asked if no item is missing. -/
theorem events_tuple_numbered (ps : List (Predicate ε α)) (items : List α) :
    ((tuple (numbered ps 0)).test items).events
      = if ps.length ≤ items.length then List.range (reach ps items) else [] := by
  -- numbering leaves as many predicates as there are
  have hlength : (numbered ps 0).length = ps.length := by
    rw [numbered, List.length_map, List.length_zipIdx]
  rw [← hlength]
  by_cases hle : (numbered ps 0).length ≤ items.length
  · rw [if_pos hle, test_tuple_of_le hle, events_zipped_numbered]
  · rw [if_neg hle, test_tuple_of_lt (Nat.not_le.1 hle)]
    rfl

/-! ### The laws together -/

/-- **Predicates at their positions split with the lists and differ at the shorter side only.** Call
the predicates zipped with the items if each that has an item is asked, and a tuple if in addition
no item may be missing.

* Let predicates and items be cut so that the first pieces are of one length. The whole holds if and
  only if both pieces hold, zipped as well as as a tuple; zipped, it also asks the same.
* A tuple holds if and only if there are enough items and the zipped predicates hold. Zipped
  predicates are the tuple of those of them that have an item. A product is the tuple of its
  members. Items appended to those that a tuple holds of change nothing.
* A tuple of too many predicates asks none of them. All else is asked from the left, up to the first
  failure: so it is with the events of the predicates, whatever they emit, and so it is with the
  positions themselves. -/
theorem positions_split_and_relate :
    (∀ (ps qs : List (Predicate ε α)) (xs ys : List α), xs.length = ps.length →
      (((tuple (ps ++ qs)).test (xs ++ ys)).value = true ↔
        ((tuple ps).test xs).value = true ∧ ((tuple qs).test ys).value = true) ∧
      (((zipped (ps ++ qs)).test (xs ++ ys)).value = true ↔
        ((zipped ps).test xs).value = true ∧ ((zipped qs).test ys).value = true) ∧
      (zipped (ps ++ qs)).test (xs ++ ys)
        = (do if ← (zipped ps).test xs then (zipped qs).test ys else pure false)) ∧
    (∀ (ps : List (Predicate ε α)) (items : List α),
      (((tuple ps).test items).value = true ↔
        ps.length ≤ items.length ∧ ((zipped ps).test items).value = true) ∧
      (zipped ps).test items = (tuple (ps.take (min ps.length items.length))).test items ∧
      (((tuple ps).test items).value = true →
        ∀ more, (tuple ps).test (items ++ more) = (tuple ps).test items)) ∧
    (∀ (p : Predicate ε α) (ps : List (Predicate ε α)), productMany p ps = tuple (p :: ps)) ∧
    ∀ (ps : List (Predicate ε α)) (items : List α),
      (tuple ps).test items
        = (if ps.length ≤ items.length then (zipped ps).test items else ⟨false, []⟩) ∧
      (zipped ps).test items
        = ⟨(ps.zip items).all fun e => (e.1.test e.2).value,
            ((ps.zip items).take (reach ps items)).flatMap fun e => (e.1.test e.2).events⟩ ∧
      ((tuple (numbered ps 0)).test items).events
        = (if ps.length ≤ items.length then List.range (reach ps items) else []) ∧
      ((zipped (numbered ps 0)).test items).events = List.range (reach ps items) := by
  -- if a tuple holds, there were items enough
  have hmore : ∀ (ps : List (Predicate ε α)) (items : List α),
      ((tuple ps).test items).value = true →
      ∀ more, (tuple ps).test (items ++ more) = (tuple ps).test items := by
    intro ps items hholds more
    have hle : ps.length ≤ items.length := (value_tuple_iff.1 hholds).1
    exact test_tuple_append_right hle more
  refine ⟨fun ps qs xs ys h => ?_, fun ps items => ?_, fun p ps => rfl, fun ps items => ?_⟩
  · exact ⟨value_tuple_append_iff h qs ys, value_zipped_append_iff h qs ys,
      test_zipped_append h qs ys⟩
  · exact ⟨value_tuple_iff, (test_tuple_take ps items).symm, hmore ps items⟩
  · exact ⟨rfl, test_zipped ps items, events_tuple_numbered ps items,
      events_zipped_numbered ps items⟩

/-- Three predicates over two items and over four: the tuple is silent where the zipped predicates
ask twice, and where there are items enough it does not look behind the second position, which
fails. -/
theorem positions_split_and_relate_at_both_ends :
    let below (bound : Nat) : Predicate Nat Nat := ⟨fun n => ⟨decide (n < bound), [bound]⟩⟩
    let ps : List (Predicate Nat Nat) := [below 5, below 6, below 7]
    ((tuple ps).test [1, 2]) = ⟨false, []⟩ ∧ ((zipped ps).test [1, 2]) = ⟨true, [5, 6]⟩ ∧
      ((tuple ps).test [1, 9, 3, 4]) = ⟨false, [5, 6]⟩ ∧
      ((tuple ps).test ([1, 2, 3] ++ [4])) = ⟨true, [5, 6, 7]⟩ ∧
      (((tuple ([below 5] ++ [below 6, below 7])).test ([1] ++ [2, 3])).value = true) := by
  intro below ps
  obtain ⟨hsplit, hrelate, -, hasked⟩ := positions_split_and_relate (ε := Nat) (α := Nat)
  obtain ⟨htuple, hzipped, -⟩ := hasked ps [1, 9, 3, 4]
  refine ⟨(hasked ps [1, 2]).1, (hasked ps [1, 2]).2.1, htuple.trans hzipped,
    (hrelate ps [1, 2, 3]).2.2 rfl [4], ?_⟩
  exact (hsplit [below 5] [below 6, below 7] [1] [2, 3] rfl).1.2 ⟨rfl, rfl⟩

end Casewise.Predicate
