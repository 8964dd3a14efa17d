/-!
# What a matcher reports about itself

* `Report` — the occasions on which the matcher itself has something to report.
* `Report.render` — level, message and the data of a report, as one line.
* `Event` — an event of a run: a mark left by a guard or a handler, or a report.
-/

namespace Casewise

/-- A report of the matcher about its own progress. -/
inductive Report where
  /-- a list of clauses was closed with a terminal -/
  | finalized (clauses : Nat) (terminal : String)
  /-- the clause at this position fired -/
  | clauseMatched (index : Nat)
  /-- no clause of a matcher that has to cover every input fired -/
  | unmatched (input : String)
  /-- no clause fired although none of the other inputs was to occur -/
  | absurd (input : String)
  /-- a rule set was prepared -/
  | rulesCompiled (rules : Nat) (hasOtherwise : Bool)

/-- The line that a report is written as. -/
def Report.render : Report → String
  | .finalized clauses terminal =>
    "DEBUG matcher finalized clauses=" ++ toString clauses ++ " terminal=" ++ terminal
  | .clauseMatched index => "TRACE clause matched clause=" ++ toString index
  | .unmatched input => "DEBUG no clause matched exhaustive matcher input=" ++ input
  | .absurd input => "DEBUG absurd input reached matcher input=" ++ input
  | .rulesCompiled rules hasOtherwise =>
    "DEBUG rule set compiled rules=" ++ toString rules ++ " has_otherwise=" ++
      (if hasOtherwise then "true" else "false")

/-- An event of a run. -/
inductive Event (τ : Type) where
  /-- left behind by a guard or a handler -/
  | mark (m : τ)
  | report (r : Report)

namespace Event

variable {τ : Type}

/-- The mark of an event that is one. -/
def mark? : Event τ → Option τ
  | .mark m => some m
  | .report _ => none

/-- The report of an event that is one. -/
def report? : Event τ → Option Report
  | .mark _ => none
  | .report r => some r

end Event

end Casewise
