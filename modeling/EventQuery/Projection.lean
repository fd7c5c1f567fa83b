import EventQuery.Path.Resolve

/-!
# Projections

A projection is the part of an event that its user asked for, rebuilt as objects along the keys of
the matches: a match is written at the names of its keys. Where two writes meet the more complete
one stays. A whole value takes the place of a branch that was being rebuilt, and nothing is written
into a whole value.
-/

namespace EventQuery

/-- A part of a projection under construction. -/
inductive Projection where
  /-- A value taken over as it is. -/
  | whole (v : Value)
  /-- An object that is rebuilt field by field. -/
  | branch (fields : List (String × Projection))
deriving Repr, Inhabited

namespace Projection

/-- Nothing yet. -/
protected def empty : Projection := .branch []

mutual

/-- The value that has been built. -/
def toValue : Projection → Value
  | .whole v => v
  | .branch fields => .object (toFields fields)

/-- The fields that have been built. -/
def toFields : List (String × Projection) → List (String × Value)
  | [] => []
  | (name, p) :: rest => (name, toValue p) :: toFields rest

end

/-- The projection with a value written at a list of names. -/
def write : Projection → List String → Value → Projection
  | _, [], v => .whole v
  | .whole w, _ :: _, _ => .whole w
  | .branch fields, [name], v => .branch (Record.insert fields name (.whole v))
  | .branch fields, name :: next :: names, v =>
    let inner := (Record.get? fields name).getD .empty
    .branch (Record.insert fields name (inner.write (next :: names) v))

/-- The projection with a match written at the names of its keys. -/
def insert (p : Projection) (m : Match) : Projection := p.write m.names m.value

/-- The projection of some matches and nothing else. -/
def ofMatches (found : List Match) : Projection := found.foldl insert .empty

/-- How many keys two chains share at their start. -/
def sharedLength : List Key → List Key → Nat
  | a :: as, b :: bs => if a = b then sharedLength as bs + 1 else 0
  | _, _ => 0

/-- How many keys all matches share at their start, at least one being left to each. -/
def sharedDepth : List Match → Nat
  | [] => 0
  | first :: rest =>
    let limit := rest.foldl (fun n m => min n m.path.length) first.path.length - 1
    rest.foldl (fun n m => min n (sharedLength first.path m.path)) limit

/-- The value that stands for the matches of a renamed path: that of a single match as it is, and
    several rebuilt below the keys they share. -/
def gathered? : List Match → Option Value
  | [] => none
  | [single] => some single.value
  | several =>
    let shared := sharedDepth several
    some (ofMatches (several.map fun m => ⟨m.path.drop shared, m.value⟩)).toValue

/-- The projection with the matches of a renamed path written under their name. -/
def insertAliased (p : Projection) (name : String) (found : List Match) : Projection :=
  match gathered? found with
  | some v => p.write [name] v
  | none => p

end Projection
end EventQuery
