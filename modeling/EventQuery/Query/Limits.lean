/-!
# What is accepted as a query
-/

namespace EventQuery

/-- The bounds that a query has to keep. -/
structure QueryLimits where
  /-- The greatest size of a pattern, in bytes. -/
  patternSize : Nat := 0x100000
  /-- The greatest number of negations and parentheses that are open at once in a condition. -/
  nesting : Nat := 64
deriving DecidableEq, Repr, Inhabited

end EventQuery
