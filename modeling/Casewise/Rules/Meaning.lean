import Casewise.Rules

/-!
# What a rule set means

A declaration is a sentence about values, and a rule set a list of such sentences. This module reads
them off as they are written down, one equation per constructor, without a detour through patterns,
compilation or clauses.

* `TypeName.holds` — the test that a type name stands for.
* `Json.partlyEquals` — deep partial equality of a value with JSON data: scalars strictly, arrays up
  to the last position that is given, objects at the members that are given.
* `PatternSpec.satisfiedBy` — whether a value is as declared.
* `RuleSet.meaning` — the data of the first rule whose condition is satisfied, else the fallback,
  else a failure.

A template over properties depends on what is made of a missing property
(`MissingFields.holdsAt`), and so does everything that contains one. No test here leaves a trace.
-/

namespace Casewise

/-- Whether the property under `key` passes the test: the property itself has to if there is one,
and the treatment of missing properties decides otherwise. -/
def MissingFields.holdsAt (missing : MissingFields) (v : Value) (key : PropertyKey)
    (test : Value → Bool) : Bool :=
  match v.property? key, missing with
  | some w, _ => test w
  | none, .reject => false
  | none, .undefined => test .undefined

/-- The test that a type name stands for. -/
def TypeName.holds : TypeName → Value → Bool
  | .string => Guard.isString.holds
  | .number => Guard.isNumber.holds
  | .boolean => Guard.isBoolean.holds
  | .bigint => Guard.isBigint.holds
  | .symbol => Guard.isSymbol.holds
  | .null => Guard.isNull.holds
  | .undefined => Guard.isUndefined.holds
  | .defined => Guard.isNotNullable.holds
  | .unknown => Guard.isUnknown.holds
  | .record => Guard.isRecord.holds
  | .array => fun v => v.kind == .array
  | .date => Guard.isDate.holds
  | .error => Guard.isError.holds
  | .map => Guard.isMap.holds
  | .set => Guard.isSet.holds
  | .function => Guard.isFunction.holds
  | .truthy => Guard.isTruthy.holds
  | .nonEmptyString => Guard.isNonEmptyString.holds

namespace Json

mutual

/-- Deep partial equality of a value with JSON data. -/
def partlyEquals (missing : MissingFields) : Json → Value → Bool
  | .null, v => Literal.null.strictEquals v
  | .bool b, v => (Literal.bool b).strictEquals v
  | .number n, v => (Literal.number n.toBinary64).strictEquals v
  | .string s, v => (Literal.string s).strictEquals v
  | .array items, v => v.items?.any (partlyEqualsPrefix missing items)
  | .object members, v => v.isObjectLike && partlyEqualsMembers missing members v

/-- Every item has a counterpart at its position; what comes after may be anything. -/
def partlyEqualsPrefix (missing : MissingFields) : List Json → List Value → Bool
  | [], _ => true
  | _ :: _, [] => false
  | j :: js, v :: vs => j.partlyEquals missing v && partlyEqualsPrefix missing js vs

/-- Every member has its counterpart among the properties; other properties may be anything. -/
def partlyEqualsMembers (missing : MissingFields) : List (String × Json) → Value → Bool
  | [], _ => true
  | (k, j) :: members, v =>
    missing.holdsAt v (.string k) (j.partlyEquals missing) && partlyEqualsMembers missing members v

end

end Json

namespace PatternSpec

mutual

/-- Whether a value is as declared. -/
def satisfiedBy (missing : MissingFields) : PatternSpec → Value → Bool
  | .equals j, v => j.partlyEquals missing v
  | .oneOf js, v => js.any fun j => j.partlyEquals missing v
  | .not s, v => !s.satisfiedBy missing v
  | .type t, v => t.holds v
  | .startsWith start, v => v.text?.any (Pattern.opens start)
  | .fields fs, v => v.isObjectLike && fieldsSatisfiedBy missing fs v
  | .elements ss, v => v.items?.any (prefixSatisfiedBy missing ss)
  | .allOf ss, v => allSatisfiedBy missing ss v
  | .anyOf ss, v => anySatisfiedBy missing ss v

def allSatisfiedBy (missing : MissingFields) : List PatternSpec → Value → Bool
  | [], _ => true
  | s :: ss, v => s.satisfiedBy missing v && allSatisfiedBy missing ss v

def anySatisfiedBy (missing : MissingFields) : List PatternSpec → Value → Bool
  | [], _ => false
  | s :: ss, v => s.satisfiedBy missing v || anySatisfiedBy missing ss v

/-- Every position is as declared; further items may be anything. -/
def prefixSatisfiedBy (missing : MissingFields) : List PatternSpec → List Value → Bool
  | [], _ => true
  | _ :: _, [] => false
  | s :: ss, v :: vs => s.satisfiedBy missing v && prefixSatisfiedBy missing ss vs

/-- Every listed property is as declared; others may be anything. -/
def fieldsSatisfiedBy (missing : MissingFields) : List (String × PatternSpec) → Value → Bool
  | [], _ => true
  | (k, s) :: fs, v =>
    missing.holdsAt v (.string k) (s.satisfiedBy missing) && fieldsSatisfiedBy missing fs v

end

end PatternSpec

/-- Whether the condition of a rule is satisfied, under the options of its rule set. -/
def Rule.appliesTo (o : MatchOptions) (v : Value) (rule : Rule) : Bool :=
  rule.condition.satisfiedBy o.missingFields v

/-- What a rule set says about a value: the data of the first rule that applies, else the fallback,
else that no rule was meant for it. -/
def RuleSet.meaning (r : RuleSet) (v : Value) : Except MatchError Json :=
  match r.rules.find? (Rule.appliesTo r.options v), r.otherwise with
  | some rule, _ => .ok rule.result
  | none, some fallback => .ok fallback
  | none, none => .error (.unmatched v.display)

end Casewise
