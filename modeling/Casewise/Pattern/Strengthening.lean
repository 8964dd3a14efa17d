import Casewise.Pattern
import Mathlib.Logic.Relation

/-!
# Strengthening a pattern

A pattern is strengthened by asking more of a value: a further property, a further position, a
further conjunct, one alternative less, a longer beginning of a string. Below a negation the same is
achieved by asking less.

* `Pattern.Edit` — one change that makes a pattern ask for more.
* `Pattern.ReplacedAt` — one part of a pattern, below some number of negations, exchanged for
  another pattern, with everything around it as it was.
* `Pattern.StrengthenedBy` — one such change at one place, or its reverse if the number of
  negations there is odd.
* `Pattern.IsStrengtheningOf` — any number of these steps, one after the other.
-/

namespace Casewise.Pattern

variable {ε : Type}

/-- A change at the root of a pattern after which it asks for more. -/
inductive Edit : Pattern ε → Pattern ε → Prop
  /-- properties are added, anywhere among those that are listed -/
  | fields {fs fs' : List (PropertyKey × Pattern ε)} :
    fs.Sublist fs' → Edit (.fields fs) (.fields fs')
  /-- positions are added at the end -/
  | elements (ps qs : List (Pattern ε)) : Edit (.elements ps) (.elements (ps ++ qs))
  /-- conjuncts are added -/
  | allOf {ps ps' : List (Pattern ε)} : ps.Sublist ps' → Edit (.allOf ps) (.allOf ps')
  /-- disjuncts are taken out -/
  | anyOf {ps ps' : List (Pattern ε)} : ps'.Sublist ps → Edit (.anyOf ps) (.anyOf ps')
  /-- literals are taken out -/
  | oneOf {ls ls' : List Literal} : ls'.Sublist ls → Edit (.oneOf ls) (.oneOf ls')
  /-- the beginning that is asked for gets longer -/
  | startsWith {start start' : String} :
    opens start start' = true → Edit (startsWith start) (startsWith start')

/-- The second pattern is the first one with `r'` in place of one part `r` that stands below that
many negations. -/
inductive ReplacedAt (r r' : Pattern ε) : Nat → Pattern ε → Pattern ε → Prop
  | self : ReplacedAt r r' 0 r r'
  | not {n : Nat} {p p' : Pattern ε} :
    ReplacedAt r r' n p p' → ReplacedAt r r' (n + 1) (.not p) (.not p')
  | allOf {n : Nat} {p p' : Pattern ε} (before after : List (Pattern ε)) :
    ReplacedAt r r' n p p' →
      ReplacedAt r r' n (.allOf (before ++ p :: after)) (.allOf (before ++ p' :: after))
  | anyOf {n : Nat} {p p' : Pattern ε} (before after : List (Pattern ε)) :
    ReplacedAt r r' n p p' →
      ReplacedAt r r' n (.anyOf (before ++ p :: after)) (.anyOf (before ++ p' :: after))
  | fields {n : Nat} {p p' : Pattern ε} (key : PropertyKey)
    (before after : List (PropertyKey × Pattern ε)) :
    ReplacedAt r r' n p p' →
      ReplacedAt r r' n (.fields (before ++ (key, p) :: after))
        (.fields (before ++ (key, p') :: after))
  | elements {n : Nat} {p p' : Pattern ε} (before after : List (Pattern ε)) :
    ReplacedAt r r' n p p' →
      ReplacedAt r r' n (.elements (before ++ p :: after)) (.elements (before ++ p' :: after))

/-- An exchange can be taken back. -/
theorem ReplacedAt.symm {r r' : Pattern ε} {n : Nat} {p p' : Pattern ε}
    (h : ReplacedAt r r' n p p') : ReplacedAt r' r n p' p := by
  induction h with
  | self => exact .self
  | not _ ih => exact .not ih
  | allOf before after _ ih => exact .allOf before after ih
  | anyOf before after _ ih => exact .anyOf before after ih
  | fields key before after _ ih => exact .fields key before after ih
  | elements before after _ ih => exact .elements before after ih

/-- The pattern `p'` is `p` after one change at one place: where the number of negations is even,
the part there asks for more in `p'`, and where it is odd the part asks for less. -/
def StrengthenedBy (p p' : Pattern ε) : Prop :=
  ∃ (n : Nat) (r r' : Pattern ε), ReplacedAt r r' n p p' ∧
    (n % 2 = 0 ∧ Edit r r' ∨ n % 2 = 1 ∧ Edit r' r)

/-- The pattern `p'` comes from `p` by any number of such changes. -/
def IsStrengtheningOf (p' p : Pattern ε) : Prop := Relation.ReflTransGen StrengthenedBy p p'

end Casewise.Pattern
