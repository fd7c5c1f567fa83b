import EventQuery.Value

/-!
# The order of values

Two numbers, two strings and two truth values have an order; nothing else has.
-/

namespace EventQuery.Value

/-- The order of two values: numbers by value, strings character by character, false before true. -/
def compare? : Value → Value → Option Ordering
  | number a, number b => a.compare? b
  | string a, string b => some (compare a b)
  | bool a, bool b => some (compare a b)
  | _, _ => none

end EventQuery.Value
