import Casewise.Clause

/-!
# Terminals

A terminal decides what becomes of a run: how the result of the clause that fired is handed on, and
what happens if none did.

* `Terminal` — the policies.
* `Outcome` — what they produce.
* `MatchError` — the failures among the outcomes, with their message.
* `Terminal.finish` — the outcome for an input and the result of its clause, if one fired.
-/

namespace Casewise

/-- A run that no clause covered, under a terminal that does not tolerate that. -/
inductive MatchError where
  /-- the input, rendered -/
  | unmatched (input : String)
  | absurd

/-- What a failure says: of an input that no clause covers it shows the input. -/
def MatchError.message : MatchError → String
  | .unmatched input => "no clause matched input: " ++ input
  | .absurd => "effect/Match/orElseAbsurd: absurd"

/-- The policy for inputs that no clause covers. -/
inductive Terminal (τ ρ : Type) where
  /-- such an input is a failure -/
  | exhaustive
  /-- such an input was not to occur -/
  | orElseAbsurd
  /-- such an input goes to a fallback -/
  | orElse (fallback : Handler τ ρ)
  /-- such an input has no result -/
  | optional
  /-- such an input is handed back -/
  | either

/-- What a run ends with. -/
inductive Outcome (ρ : Type) where
  /-- the result of a clause where failure was possible -/
  | ok (result : ρ)
  | failed (error : MatchError)
  /-- the result of a clause or of the fallback -/
  | value (result : ρ)
  | present (result : ρ)
  | absent
  /-- the input, handed back -/
  | rejected (input : Value)

/-- The result of a clause or of the fallback, if the run ended with one. -/
def Outcome.result? {ρ : Type} : Outcome ρ → Option ρ
  | .ok r => some r
  | .value r => some r
  | .present r => some r
  | _ => none

namespace Terminal

variable {τ ρ : Type}

/-- The name under which a terminal is reported. -/
def name : Terminal τ ρ → String
  | .exhaustive => "exhaustive"
  | .orElseAbsurd => "or_else_absurd"
  | .orElse _ => "or_else"
  | .optional => "option"
  | .either => "either"

/-- The structure of a terminal, spelled out. -/
def inspect : Terminal τ ρ → String
  | .exhaustive => "Exhaustive"
  | .orElseAbsurd => "Absurd"
  | .orElse _ => "OrElse(<handler>)"
  | .optional => "Optional"
  | .either => "Either"

/-- The outcome of a run; the two failures are reported. -/
def finish (t : Terminal τ ρ) (input : Value) (result? : Option ρ) :
    Traced (Event τ) (Outcome ρ) :=
  match t, result? with
  | .exhaustive, some r => return .ok r
  | .exhaustive, none => do
    Traced.emit (.report (.unmatched input.display))
    return .failed (.unmatched input.display)
  | .orElseAbsurd, some r => return .ok r
  | .orElseAbsurd, none => do
    Traced.emit (.report (.absurd input.display))
    return .failed .absurd
  | .orElse _, some r => return .value r
  | .orElse fallback, none => return .value (← fallback input)
  | .optional, some r => return .present r
  | .optional, none => return .absent
  | .either, some r => return .ok r
  | .either, none => return .rejected input

end Terminal

end Casewise
