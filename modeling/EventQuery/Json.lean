import EventQuery.Number
import EventQuery.Record

/-!
# JSON documents

A document as a tree. Its numerals are natural numbers, negative integers, or finite doubles, each
in the widest form that a document can hold; the fields of an object stand in order.
-/

namespace EventQuery

namespace Json

/-- A numeral of a document. -/
inductive Numeral where
  | natural (n : UInt64)
  | negative (i : Int64)
  | float (x : Binary64)
deriving DecidableEq, Repr, Inhabited

end Json

/-- A JSON document. -/
inductive Json where
  | null
  | bool (b : Bool)
  | number (n : Json.Numeral)
  | string (s : String)
  | array (items : List Json)
  | object (fields : List (String × Json))
deriving Repr, Inhabited

end EventQuery
