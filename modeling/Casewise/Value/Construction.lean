import Casewise.Value

/-!
# Records under construction

A program starts from an empty record, plain or of a class, and puts properties into it one by one,
asking or not asking for what stood under a key before. It may also leave the record that it has and
collect a plain one from a list of entries.

* `RecordCall` — the calls.
* `Record.call`, `Record.run` — the record after a call, and after all calls of a program.
* `RecordCall.insertions` — what was inserted into the record at hand since it was begun.

The insertions are told from the calls alone, without looking at any record: they are what the
record is to be judged by.
-/

namespace Casewise

variable {ν : Type}

/-- What a program may do with the record that it builds. -/
inductive RecordCall (ν : Type) where
  /-- put a value under a key, and ask for the one that stood there -/
  | exchange (key : PropertyKey) (value : ν)
  /-- put a value under a key -/
  | insert (key : PropertyKey) (value : ν)
  /-- begin anew, with a plain record of these entries -/
  | collect (entries : List (PropertyKey × ν))

namespace RecordCall

def isCollect : RecordCall ν → Bool
  | .collect _ => true
  | _ => false

/-- The insertions into the record at hand, with those of one more call. -/
def extend (insertions : List (PropertyKey × ν)) : RecordCall ν → List (PropertyKey × ν)
  | .exchange key value => insertions ++ [(key, value)]
  | .insert key value => insertions ++ [(key, value)]
  | .collect entries => entries

/-- The insertions into the record that these calls leave, oldest first. -/
def insertions (calls : List (RecordCall ν)) : List (PropertyKey × ν) := calls.foldl extend []

end RecordCall

namespace Record

/-- The record after a call. -/
def call (r : Record ν) : RecordCall ν → Record ν
  | .exchange key value => (r.exchange key value).2
  | .insert key value => r.insert key value
  | .collect entries => ofList entries

/-- The record after these calls, beginning with an empty one. -/
def run (className : Option String) (calls : List (RecordCall ν)) : Record ν :=
  calls.foldl call { className }

end Record

end Casewise
