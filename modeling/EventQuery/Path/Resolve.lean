import EventQuery.Path
import EventQuery.Value

/-!
# Resolving a path

A path is resolved on an event by taking its segments in turn, each on all values reached so far.
What cannot be taken is dropped: a field that is missing, a position out of range, a segment on a
value of another kind. Matches come in document order.
-/

namespace EventQuery

/-- How a value was reached from the one around it. -/
inductive Key where
  | field (name : String)
  /-- The position as the path gives it, or that of the item where the path gives none. -/
  | index (i : Int64)
deriving DecidableEq, Repr, Inhabited

namespace Key

/-- The name of the key in a projection. -/
def fieldName : Key → String
  | field name => name
  | index i => toString i.toInt

end Key

/-- A value inside an event, and the keys that lead to it. -/
structure Match where
  path : List Key
  value : Value
deriving Repr, Inhabited

namespace Match

/-- The last key, none at the event itself. -/
def key? (m : Match) : Option Key := m.path.getLast?

/-- The names of the keys in a projection. -/
def names (m : Match) : List String := m.path.map Key.fieldName

/-- The match one key further in. -/
def child (m : Match) (key : Key) (value : Value) : Match := ⟨m.path ++ [key], value⟩

end Match

namespace Segment

/-- The position in a list of the given length that an index means, if it is in range. Lengths
    beyond the largest index have no positions. -/
def position? (i : Int64) (length : Nat) : Option Nat :=
  if Int64.maxValue.toInt < length then none
  else
    let at_ := if 0 ≤ i.toInt then i.toInt else length + i.toInt
    if 0 ≤ at_ ∧ at_ < length then some at_.toNat else none

/-- The values that a segment leads to from a value, with their keys. -/
def children : Segment → Value → List (Key × Value)
  | .key name, .object fields =>
    match Record.get? fields name with
    | some v => [(.field name, v)]
    | none => []
  | .index i, .list items =>
    match (position? i items.length).bind (items[·]?) with
    | some v => [(.index i, v)]
    | none => []
  | .wildcard, .list items =>
    items.zipIdx.map fun (v, n) => (.index (Int64.ofNat n), v)
  | .wildcard, .object fields => fields.map fun (name, v) => (.field name, v)
  | .stem start, .object fields =>
    (fields.filter fun (name, _) => start.toList.isPrefixOf name.toList).map
      fun (name, v) => (.field name, v)
  | _, _ => []

/-- The matches one segment further in. -/
def step (s : Segment) (found : List Match) : List Match :=
  found.flatMap fun m => (s.children m.value).map fun (k, v) => m.child k v

end Segment

/-- The matches of a path on an event. -/
def Path.resolve (p : Path) (event : Value) : List Match :=
  p.foldl (fun found s => s.step found) [⟨[], event⟩]

end EventQuery
