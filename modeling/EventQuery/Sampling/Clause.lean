/-!
# Sample clauses
-/

namespace EventQuery

/-- How a clause chooses among the events that match. -/
inductive SampleStrategy where
  /-- By a draw for every event. -/
  | random
  /-- By the values of some fields, so that equal ones are treated alike. -/
  | sticky
deriving DecidableEq, Repr, Inhabited

namespace SampleStrategy

/-- The names of the strategies in a clause. -/
def named : List (String × SampleStrategy) := [("RANDOM", random), ("STICKY", sticky)]

def name : SampleStrategy → String
  | random => "RANDOM"
  | sticky => "STICKY"

end SampleStrategy

/-- A sample clause: so many events out of a number of them are let through. -/
structure SampleClause where
  strategy : SampleStrategy
  threshold : UInt32
  keys : List String
  salt : Option String
  factor : Option UInt32
deriving DecidableEq, Repr, Inhabited

end EventQuery
